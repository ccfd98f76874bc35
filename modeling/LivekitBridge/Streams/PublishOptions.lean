import LivekitBridge.Text
import Mathlib.Algebra.Order.Ring.Int

/-!
# Publish options

The options a track is published with, as `video/stream_config.cpp` and `audio/stream_config.cpp`
read them: `parsePublishOptions` from the global parameters, and `parseEntryPublishOptions`, the
overload for one entry, over the options that the global parameters gave.

The documentation states one law for all fields: an entry either inherits a field or has its own
value for it, and this value then means what it means as a global one.  `PublishField` is what the
law needs to know of a field, and `PublishField.Merged` the law.

Parameters are 64-bit integers, and cast to unsigned ones.  Frame rates are doubles that are not
NaN, which the schema's lower bound excludes; what matters of them is their order.
-/

namespace LivekitBridge

/-- `livekit::VideoCodec`, by its values from 0 to 4. -/
inductive VideoCodec
  | vp8
  | h264
  | av1
  | vp9
  | h265
deriving DecidableEq, Repr

structure VideoEncodingOptions (F : Type) where
  maxBitrate : UInt64
  maxFramerate : F
deriving DecidableEq

structure AudioEncodingOptions where
  maxBitrate : UInt64
deriving DecidableEq

/-- `livekit::TrackPublishOptions`, as far as the bridge sets them. -/
structure TrackPublishOptions (F : Type) where
  videoEncoding : Option (VideoEncodingOptions F) := none
  audioEncoding : Option AudioEncodingOptions := none
  videoCodec : Option VideoCodec := none
  dtx : Option Bool := none
  red : Option Bool := none
  simulcast : Option Bool := none
deriving DecidableEq

/-! ### The law of a field -/

/-- A field of the options `O` that is read from the parameters `P`. -/
structure PublishField (O P V T : Type) where
  value : P → V
  effective : O → T
  /-- What the field is without any parameter. -/
  sdkDefault : T
  /-- What a value means as a global one. -/
  meaning : V → T
  /-- The values of an entry that stand for the global one. -/
  inherits : V → Prop
  /-- The values that ask for what the field is without any parameter. -/
  resets : V → Prop

/-- The law of a field: `options` are the options of the globals, and `merged` those of the entry
over them. -/
structure PublishField.Merged {O P V T : Type} (field : PublishField O P V T) (globals entry : P)
    (options merged : O) : Prop where
  globally : field.effective options = field.meaning (field.value globals)
  inherited : field.inherits (field.value entry) → field.effective merged = field.effective options
  own : ¬ field.inherits (field.value entry) →
    field.effective merged = field.meaning (field.value entry)
  reset : field.resets (field.value entry) → field.effective merged = field.sdkDefault

/-- A keyword: blank inherits, `auto` resets. -/
def keywordField {O P T : Type} (value : P → Str) (effective : O → Option T)
    (meaning : Str → Option T) : PublishField O P Str (Option T) where
  value := value
  effective := effective
  sdkDefault := none
  meaning := meaning
  inherits text := trim text = []
  resets text := trim text = lit "auto"

/-- A bit rate: a negative one inherits, zero resets. -/
def bitrateField {O P : Type} (value : P → Int64) (effective : O → UInt64) :
    PublishField O P Int64 UInt64 where
  value := value
  effective := effective
  sdkDefault := 0
  meaning := Int64.toUInt64
  inherits rate := rate < 0
  resets rate := rate = 0

/-- A frame rate: a negative one inherits, zero resets. -/
def framerateField {O P F : Type} [LinearOrder F] [Zero F] (value : P → F) (effective : O → F) :
    PublishField O P F F where
  value := value
  effective := effective
  sdkDefault := 0
  meaning rate := rate
  inherits rate := rate < 0
  resets rate := rate = 0

section Laws

variable {O P : Type} {globals entry : P} {options merged : O}

/-- A keyword that is merged by its own value keeps the law. -/
theorem keywordField_merged {T : Type} {value : P → Str} {effective : O → Option T}
    {meaning : Str → Option T} (hauto : ∀ text, trim text = lit "auto" → meaning text = none)
    (hglobally : effective options = meaning (value globals))
    (hmerged : effective merged =
      if trim (value entry) = [] then effective options else meaning (value entry)) :
    (keywordField value effective meaning).Merged globals entry options merged := by
  refine ⟨hglobally, ?_, ?_, ?_⟩
  · intro hblank
    exact hmerged.trans (if_pos hblank)
  · intro hown
    exact hmerged.trans (if_neg hown)
  · intro hreset
    have hown : trim (value entry) ≠ [] := by
      have hauto' : trim (value entry) = lit "auto" := hreset
      rw [hauto']
      decide
    exact (hmerged.trans (if_neg hown)).trans (hauto _ hreset)

theorem bitrateField_merged {value : P → Int64} {effective : O → UInt64}
    (hglobally : effective options = (value globals).toUInt64)
    (hmerged : effective merged =
      if 0 ≤ value entry then (value entry).toUInt64 else effective options) :
    (bitrateField value effective).Merged globals entry options merged := by
  refine ⟨hglobally, ?_, ?_, ?_⟩
  · intro hnegative
    exact hmerged.trans (if_neg (Int64.not_le.mpr hnegative))
  · intro hown
    exact hmerged.trans (if_pos (Int64.not_lt.mp hown))
  · intro hreset
    have hzero : value entry = 0 := hreset
    rw [hzero, if_pos (Int64.le_refl 0)] at hmerged
    exact hmerged

theorem framerateField_merged {F : Type} [LinearOrder F] [Zero F] {value : P → F}
    {effective : O → F} (hglobally : effective options = value globals)
    (hmerged : effective merged = if 0 ≤ value entry then value entry else effective options) :
    (framerateField value effective).Merged globals entry options merged := by
  refine ⟨hglobally, ?_, ?_, ?_⟩
  · intro hnegative
    exact hmerged.trans (if_neg (not_le.mpr hnegative))
  · intro hown
    exact hmerged.trans (if_pos (not_lt.mp hown))
  · intro hreset
    have hzero : value entry = 0 := hreset
    rw [hzero, if_pos le_rfl] at hmerged
    exact hmerged

end Laws

/-! ### Video -/

namespace Video

/-- `publish` of the video parameters, global or of an entry. -/
structure PublishParams (F : Type) where
  codec : Str
  maxBitrateBps : Int64
  maxFramerate : F
  simulcast : Str
deriving DecidableEq

def parseVideoCodec (value : Str) : Option VideoCodec :=
  let codec := trim value
  if codec = lit "vp8" then some .vp8
  else if codec = lit "h264" then some .h264
  else if codec = lit "av1" then some .av1
  else if codec = lit "vp9" then some .vp9
  else if codec = lit "h265" then some .h265
  else none

def parseSimulcast (value : Str) : Option Bool :=
  let simulcast := trim value
  if simulcast = lit "enabled" then some true
  else if simulcast = lit "disabled" then some false
  else none

section Framerates

variable {F : Type} [LinearOrder F] [Zero F]

def setEncoding (options : TrackPublishOptions F) (maxBitrateBps : UInt64) (maxFramerate : F) :
    TrackPublishOptions F :=
  if 0 < maxBitrateBps ∨ 0 < maxFramerate then
    { options with videoEncoding := some ⟨maxBitrateBps, maxFramerate⟩ }
  else { options with videoEncoding := none }

/-- `parsePublishOptions` of the global parameters. -/
def parsePublishOptions (params : PublishParams F) : TrackPublishOptions F :=
  let options : TrackPublishOptions F := { videoCodec := parseVideoCodec params.codec }
  let options := setEncoding options params.maxBitrateBps.toUInt64 params.maxFramerate
  { options with simulcast := parseSimulcast params.simulcast }

/-- `parsePublishOptions` of an entry. -/
def parseEntryPublishOptions (entry : PublishParams F) (defaults : TrackPublishOptions F) :
    TrackPublishOptions F :=
  let codec := trim entry.codec
  let options :=
    if codec ≠ [] then { defaults with videoCodec := parseVideoCodec codec } else defaults
  let maxBitrateBps :=
    match options.videoEncoding with
    | some encoding => encoding.maxBitrate
    | none => 0
  let maxFramerate :=
    match options.videoEncoding with
    | some encoding => encoding.maxFramerate
    | none => 0
  let maxBitrateBps :=
    if 0 ≤ entry.maxBitrateBps then entry.maxBitrateBps.toUInt64 else maxBitrateBps
  let maxFramerate := if 0 ≤ entry.maxFramerate then entry.maxFramerate else maxFramerate
  let options := setEncoding options maxBitrateBps maxFramerate
  let simulcast := trim entry.simulcast
  if simulcast ≠ [] then { options with simulcast := parseSimulcast simulcast } else options

/-- The bit rate that is in effect; 0 stands for that of the SDK. -/
def effectiveBitrate (options : TrackPublishOptions F) : UInt64 :=
  match options.videoEncoding with
  | some encoding => encoding.maxBitrate
  | none => 0

/-- The frame rate that is in effect; 0 stands for that of the SDK. -/
def effectiveFramerate (options : TrackPublishOptions F) : F :=
  match options.videoEncoding with
  | some encoding => encoding.maxFramerate
  | none => 0

/-- The law for all fields of video. -/
structure MergesByField (globals entry : PublishParams F) (options merged : TrackPublishOptions F) :
    Prop where
  codec : (keywordField PublishParams.codec TrackPublishOptions.videoCodec parseVideoCodec).Merged
    globals entry options merged
  bitrate : (bitrateField PublishParams.maxBitrateBps effectiveBitrate).Merged globals entry
    options merged
  framerate : (framerateField PublishParams.maxFramerate effectiveFramerate).Merged globals entry
    options merged
  simulcast : (keywordField PublishParams.simulcast TrackPublishOptions.simulcast
    parseSimulcast).Merged globals entry options merged
  encoding : merged.videoEncoding = none ↔
    effectiveBitrate merged = 0 ∧ effectiveFramerate merged = 0

/-! Each field of the result has its own equation. -/

theorem setEncoding_videoEncoding (options : TrackPublishOptions F) (bitrate : UInt64)
    (framerate : F) : (setEncoding options bitrate framerate).videoEncoding =
      if 0 < bitrate ∨ 0 < framerate then some ⟨bitrate, framerate⟩ else none := by
  rw [setEncoding]
  split <;> rfl

@[simp] theorem setEncoding_videoCodec (options : TrackPublishOptions F) (bitrate : UInt64)
    (framerate : F) : (setEncoding options bitrate framerate).videoCodec = options.videoCodec := by
  rw [setEncoding]
  split <;> rfl

@[simp] theorem setEncoding_simulcast (options : TrackPublishOptions F) (bitrate : UInt64)
    (framerate : F) : (setEncoding options bitrate framerate).simulcast = options.simulcast := by
  rw [setEncoding]
  split <;> rfl

/-- The bit rate an entry sets. -/
def mergedBitrate (entry : PublishParams F) (defaults : TrackPublishOptions F) : UInt64 :=
  if 0 ≤ entry.maxBitrateBps then entry.maxBitrateBps.toUInt64 else effectiveBitrate defaults

/-- The frame rate an entry sets. -/
def mergedFramerate (entry : PublishParams F) (defaults : TrackPublishOptions F) : F :=
  if 0 ≤ entry.maxFramerate then entry.maxFramerate else effectiveFramerate defaults

theorem parseEntryPublishOptions_eq (entry : PublishParams F) (defaults : TrackPublishOptions F) :
    (parseEntryPublishOptions entry defaults).videoCodec =
        (if trim entry.codec = [] then defaults.videoCodec else parseVideoCodec entry.codec) ∧
      (parseEntryPublishOptions entry defaults).simulcast =
        (if trim entry.simulcast = [] then defaults.simulcast
          else parseSimulcast entry.simulcast) ∧
      (parseEntryPublishOptions entry defaults).videoEncoding =
        (setEncoding defaults (mergedBitrate entry defaults)
          (mergedFramerate entry defaults)).videoEncoding := by
  have hcodec : parseVideoCodec (trim entry.codec) = parseVideoCodec entry.codec := by
    rw [parseVideoCodec, trim_trim, parseVideoCodec]
  have hsimulcast : parseSimulcast (trim entry.simulcast) = parseSimulcast entry.simulcast := by
    rw [parseSimulcast, trim_trim, parseSimulcast]
  by_cases hc : trim entry.codec = [] <;> by_cases hs : trim entry.simulcast = [] <;>
    simp [parseEntryPublishOptions, hc, hs, hcodec, hsimulcast, setEncoding_videoEncoding,
      mergedBitrate, mergedFramerate, effectiveBitrate, effectiveFramerate]

theorem setEncoding_effective (options : TrackPublishOptions F) (bitrate : UInt64) {framerate : F}
    (h : 0 ≤ framerate) :
    effectiveBitrate (setEncoding options bitrate framerate) = bitrate ∧
      effectiveFramerate (setEncoding options bitrate framerate) = framerate := by
  rw [effectiveBitrate, effectiveFramerate, setEncoding_videoEncoding]
  split
  · rename_i encoding hsome
    split at hsome
    · obtain rfl := Option.some.inj hsome
      exact ⟨rfl, rfl⟩
    · cases hsome
  · rename_i hnone
    split at hnone
    · cases hnone
    · rename_i hzero
      obtain ⟨hbitrate, hframerate⟩ := not_or.mp hzero
      constructor
      · exact (UInt64.le_zero_iff.mp (UInt64.not_lt.mp hbitrate)).symm
      · exact le_antisymm h (not_lt.mp hframerate)

/-- An encoding is absent when its values are. -/
theorem videoEncoding_eq_none_iff {options : TrackPublishOptions F} {bitrate : UInt64}
    {framerate : F} (h : 0 ≤ framerate) :
    (setEncoding options bitrate framerate).videoEncoding = none ↔ bitrate = 0 ∧ framerate = 0 := by
  rw [setEncoding_videoEncoding, ite_eq_right_iff]
  constructor
  · intro hnot
    have hzero : ¬ (0 < bitrate ∨ 0 < framerate) := fun hpos => by cases hnot hpos
    obtain ⟨hbitrate, hframerate⟩ := not_or.mp hzero
    exact ⟨UInt64.le_zero_iff.mp (UInt64.not_lt.mp hbitrate), le_antisymm (not_lt.mp hframerate) h⟩
  · intro hzero hpos
    rw [hzero.1, hzero.2] at hpos
    rcases hpos with hpos | hpos
    · exact absurd hpos (UInt64.lt_irrefl 0)
    · exact absurd hpos (lt_irrefl 0)

/-- What the globals give. -/
theorem parsePublishOptions_effective (globals : PublishParams F) (h : 0 ≤ globals.maxFramerate) :
    effectiveBitrate (parsePublishOptions globals) = globals.maxBitrateBps.toUInt64 ∧
      effectiveFramerate (parsePublishOptions globals) = globals.maxFramerate :=
  setEncoding_effective { videoCodec := parseVideoCodec globals.codec }
    globals.maxBitrateBps.toUInt64 h

/-- What the entry gives over options whose frame rate is not negative. -/
theorem parseEntryPublishOptions_effective (entry : PublishParams F)
    (defaults : TrackPublishOptions F) (h : 0 ≤ effectiveFramerate defaults) :
    effectiveBitrate (parseEntryPublishOptions entry defaults) = mergedBitrate entry defaults ∧
      effectiveFramerate (parseEntryPublishOptions entry defaults) =
        mergedFramerate entry defaults ∧
      ((parseEntryPublishOptions entry defaults).videoEncoding = none ↔
        mergedBitrate entry defaults = 0 ∧ mergedFramerate entry defaults = 0) := by
  have hnonneg : 0 ≤ mergedFramerate entry defaults := by
    rw [mergedFramerate]
    split
    · assumption
    · exact h
  obtain ⟨_, _, hencoding⟩ := parseEntryPublishOptions_eq entry defaults
  obtain ⟨hbitrate, hframerate⟩ :=
    setEncoding_effective defaults (mergedBitrate entry defaults) hnonneg
  refine ⟨?_, ?_, ?_⟩
  · rw [effectiveBitrate, hencoding]
    exact hbitrate
  · rw [effectiveFramerate, hencoding]
    exact hframerate
  · rw [hencoding]
    exact videoEncoding_eq_none_iff hnonneg

/-- **Video obeys the law.** -/
theorem mergesByField (globals entry : PublishParams F) (h : 0 ≤ globals.maxFramerate) :
    MergesByField globals entry (parsePublishOptions globals)
      (parseEntryPublishOptions entry (parsePublishOptions globals)) := by
  obtain ⟨hbitrate, hframerate⟩ := parsePublishOptions_effective globals h
  obtain ⟨hcodec', hsimulcast', _⟩ := parseEntryPublishOptions_eq entry (parsePublishOptions globals)
  obtain ⟨hbitrate', hframerate', hencoding'⟩ :=
    parseEntryPublishOptions_effective entry (parsePublishOptions globals) (hframerate ▸ h)
  refine ⟨?_, ?_, ?_, ?_, ?_⟩
  · apply keywordField_merged
    · intro text htext
      rw [parseVideoCodec, htext]
      rfl
    · exact setEncoding_videoCodec _ _ _
    · exact hcodec'
  · exact bitrateField_merged hbitrate hbitrate'
  · exact framerateField_merged hframerate hframerate'
  · apply keywordField_merged
    · intro text htext
      rw [parseSimulcast, htext]
      rfl
    · rfl
    · exact hsimulcast'
  · rw [hencoding', hbitrate', hframerate']

end Framerates

end Video

/-! ### Audio -/

namespace Audio

/-- `publish` of the audio parameters, global or of an entry. -/
structure PublishParams where
  maxBitrateBps : Int64
  dtx : Str
  red : Str
deriving DecidableEq

/-- The switches of `parsePublishOptions`: any other text leaves the option as it is. -/
def setSwitch (option : Option Bool) (value : Str) : Option Bool :=
  let switch := trim value
  if switch = lit "enabled" then some true
  else if switch = lit "disabled" then some false
  else option

section Framerates

variable {F : Type}

def setEncoding (options : TrackPublishOptions F) (maxBitrateBps : UInt64) :
    TrackPublishOptions F :=
  if 0 < maxBitrateBps then { options with audioEncoding := some ⟨maxBitrateBps⟩ }
  else { options with audioEncoding := none }

/-- `parsePublishOptions` of the global parameters. -/
def parsePublishOptions (params : PublishParams) : TrackPublishOptions F :=
  let options : TrackPublishOptions F := {}
  let options := setEncoding options params.maxBitrateBps.toUInt64
  let options := { options with dtx := setSwitch options.dtx params.dtx }
  { options with red := setSwitch options.red params.red }

/-- `parsePublishOptions` of an entry. -/
def parseEntryPublishOptions (entry : PublishParams) (defaults : TrackPublishOptions F) :
    TrackPublishOptions F :=
  let options := defaults
  let maxBitrateBps :=
    match options.audioEncoding with
    | some encoding => encoding.maxBitrate
    | none => 0
  let maxBitrateBps :=
    if 0 ≤ entry.maxBitrateBps then entry.maxBitrateBps.toUInt64 else maxBitrateBps
  let options := setEncoding options maxBitrateBps
  let options := { options with dtx := setSwitch options.dtx entry.dtx }
  { options with red := setSwitch options.red entry.red }

/-- The bit rate that is in effect; 0 stands for that of the SDK. -/
def effectiveBitrate (options : TrackPublishOptions F) : UInt64 :=
  match options.audioEncoding with
  | some encoding => encoding.maxBitrate
  | none => 0

/-- The law for all fields of audio. -/
structure MergesByField (globals entry : PublishParams) (options merged : TrackPublishOptions F) :
    Prop where
  bitrate : (bitrateField PublishParams.maxBitrateBps effectiveBitrate).Merged globals entry
    options merged
  dtx : (keywordField PublishParams.dtx TrackPublishOptions.dtx (setSwitch none)).Merged globals
    entry options merged
  red : (keywordField PublishParams.red TrackPublishOptions.red (setSwitch none)).Merged globals
    entry options merged
  encoding : merged.audioEncoding = none ↔ effectiveBitrate merged = 0

/-! A switch that is not set does not overwrite one that is. -/

/-- The text sets the switch. -/
def Sets (text : Str) : Prop := trim text = lit "enabled" ∨ trim text = lit "disabled"

/-- The entry has a value of its own that does not set the switch, and the globals set it. -/
def Stuck (globals entry : Str) : Prop := trim entry ≠ [] ∧ ¬ Sets entry ∧ Sets globals

theorem setSwitch_of_sets {text : Str} (h : Sets text) (option : Option Bool) :
    setSwitch option text = setSwitch none text ∧ setSwitch none text ≠ none := by
  simp only [setSwitch]
  rcases h with h | h
  · rw [h]
    exact ⟨rfl, by decide⟩
  · rw [h]
    exact ⟨rfl, by decide⟩

theorem setSwitch_of_not_sets {text : Str} (h : ¬ Sets text) (option : Option Bool) :
    setSwitch option text = option := by
  obtain ⟨henabled, hdisabled⟩ := not_or.mp h
  simp only [setSwitch, if_neg henabled, if_neg hdisabled]

theorem not_sets_of_blank {text : Str} (h : trim text = []) : ¬ Sets text := by
  rw [Sets, h]
  decide

theorem not_sets_of_auto {text : Str} (h : trim text = lit "auto") : ¬ Sets text := by
  rw [Sets, h]
  decide

/-- A switch obeys the law unless it is stuck. -/
theorem switch_merged_iff {value : PublishParams → Str}
    {effective : TrackPublishOptions F → Option Bool} {globals entry : PublishParams}
    {options merged : TrackPublishOptions F}
    (hglobally : effective options = setSwitch none (value globals))
    (hmerged : effective merged = setSwitch (effective options) (value entry)) :
    (keywordField value effective (setSwitch none)).Merged globals entry options merged ↔
      ¬ Stuck (value globals) (value entry) := by
  constructor
  · intro h hstuck
    obtain ⟨hnonblank, hentry, hglobals⟩ := hstuck
    have hown : effective merged = setSwitch none (value entry) := h.own hnonblank
    rw [hmerged, setSwitch_of_not_sets hentry, setSwitch_of_not_sets hentry, hglobally] at hown
    exact (setSwitch_of_sets hglobals none).2 hown
  · intro hnot
    apply keywordField_merged
    · intro text htext
      exact setSwitch_of_not_sets (not_sets_of_auto htext) none
    · exact hglobally
    · rw [hmerged]
      by_cases hentry : Sets (value entry)
      · have hnonblank : trim (value entry) ≠ [] := fun hblank => not_sets_of_blank hblank hentry
        rw [if_neg hnonblank]
        exact (setSwitch_of_sets hentry _).1
      · rw [setSwitch_of_not_sets hentry, setSwitch_of_not_sets hentry]
        by_cases hblank : trim (value entry) = []
        · rw [if_pos hblank]
        · rw [if_neg hblank, hglobally]
          apply setSwitch_of_not_sets
          intro hglobals
          exact hnot ⟨hblank, hentry, hglobals⟩

/-! The encoding is that of video without the frame rate. -/

theorem setEncoding_audioEncoding (options : TrackPublishOptions F) (bitrate : UInt64) :
    (setEncoding options bitrate).audioEncoding = if 0 < bitrate then some ⟨bitrate⟩ else none := by
  rw [setEncoding]
  split <;> rfl

@[simp] theorem setEncoding_dtx (options : TrackPublishOptions F) (bitrate : UInt64) :
    (setEncoding options bitrate).dtx = options.dtx := by
  rw [setEncoding]
  split <;> rfl

@[simp] theorem setEncoding_red (options : TrackPublishOptions F) (bitrate : UInt64) :
    (setEncoding options bitrate).red = options.red := by
  rw [setEncoding]
  split <;> rfl

theorem setEncoding_effective (options : TrackPublishOptions F) (bitrate : UInt64) :
    effectiveBitrate (setEncoding options bitrate) = bitrate ∧
      ((setEncoding options bitrate).audioEncoding = none ↔ bitrate = 0) := by
  rw [effectiveBitrate, setEncoding_audioEncoding]
  by_cases hpos : 0 < bitrate
  · rw [if_pos hpos]
    have hne : bitrate ≠ 0 := UInt64.pos_iff_ne_zero.mp hpos
    exact ⟨rfl, by simp [hne]⟩
  · have hzero : bitrate = 0 := UInt64.le_zero_iff.mp (UInt64.not_lt.mp hpos)
    rw [if_neg hpos, hzero]
    simp

/-- **Audio obeys the law unless a switch is stuck.** -/
theorem mergesByField_iff (globals entry : PublishParams) :
    MergesByField globals entry (parsePublishOptions globals : TrackPublishOptions F)
        (parseEntryPublishOptions entry (parsePublishOptions globals)) ↔
      ¬ Stuck globals.dtx entry.dtx ∧ ¬ Stuck globals.red entry.red := by
  generalize hoptions : (parsePublishOptions globals : TrackPublishOptions F) = options
  have hdtx : options.dtx = setSwitch none globals.dtx := by
    simp [← hoptions, parsePublishOptions]
  have hred : options.red = setSwitch none globals.red := by
    simp [← hoptions, parsePublishOptions]
  have hbitrate : effectiveBitrate options = globals.maxBitrateBps.toUInt64 := by
    rw [← hoptions]
    exact (setEncoding_effective {} globals.maxBitrateBps.toUInt64).1
  have hdtx' : (parseEntryPublishOptions entry options).dtx = setSwitch options.dtx entry.dtx := by
    simp [parseEntryPublishOptions]
  have hred' : (parseEntryPublishOptions entry options).red = setSwitch options.red entry.red := by
    simp [parseEntryPublishOptions]
  obtain ⟨hbitrate', hencoding'⟩ := setEncoding_effective options
    (if 0 ≤ entry.maxBitrateBps then entry.maxBitrateBps.toUInt64 else effectiveBitrate options)
  constructor
  · intro h
    exact ⟨(switch_merged_iff hdtx hdtx').mp h.dtx, (switch_merged_iff hred hred').mp h.red⟩
  · intro h
    refine ⟨bitrateField_merged hbitrate hbitrate', (switch_merged_iff hdtx hdtx').mpr h.1,
      (switch_merged_iff hred hred').mpr h.2, ?_⟩
    exact hencoding'.trans (by rw [← hbitrate']; exact Iff.rfl)

end Framerates

end Audio

/-! ### Both -/

/-- **One law for video and audio**, but for an audio switch whose own value does not set it under
a global one that does. -/
theorem publishOptions_merge_iff {F : Type} [LinearOrder F] [Zero F]
    (videoGlobals videoEntry : Video.PublishParams F) (audioGlobals audioEntry : Audio.PublishParams)
    (hschema : 0 ≤ videoGlobals.maxFramerate) :
    (Video.MergesByField videoGlobals videoEntry (Video.parsePublishOptions videoGlobals)
        (Video.parseEntryPublishOptions videoEntry (Video.parsePublishOptions videoGlobals)) ∧
      Audio.MergesByField audioGlobals audioEntry
        (Audio.parsePublishOptions audioGlobals : TrackPublishOptions F)
        (Audio.parseEntryPublishOptions audioEntry (Audio.parsePublishOptions audioGlobals))) ↔
      ¬ Audio.Stuck audioGlobals.dtx audioEntry.dtx ∧
        ¬ Audio.Stuck audioGlobals.red audioEntry.red := by
  rw [Audio.mergesByField_iff]
  exact and_iff_right (Video.mergesByField videoGlobals videoEntry hschema)

/-- The global frame rate is inherited and the bit rate reset; DTX is inherited, RED switched off. -/
theorem publishOptions_merge_iff_camera :
    Video.effectiveFramerate (F := ℤ) (Video.parseEntryPublishOptions ⟨[], 0, -1, lit "auto"⟩
        (Video.parsePublishOptions ⟨lit "h264", 2000000, 30, lit "enabled"⟩)) = 30 ∧
      (Audio.parseEntryPublishOptions ⟨-1, [], lit "disabled"⟩
        (Audio.parsePublishOptions ⟨0, lit "enabled", lit "auto"⟩ :
          TrackPublishOptions ℤ)).dtx = some true := by
  obtain ⟨hvideo, haudio⟩ := (publishOptions_merge_iff (F := ℤ)
    ⟨lit "h264", 2000000, 30, lit "enabled"⟩ ⟨[], 0, -1, lit "auto"⟩
    ⟨0, lit "enabled", lit "auto"⟩ ⟨-1, [], lit "disabled"⟩ (by decide)).mpr
    ⟨fun hstuck => hstuck.1 rfl, fun hstuck => hstuck.2.1 (.inr rfl)⟩
  have hnegative : (-1 : ℤ) < 0 := by decide
  constructor
  · exact (hvideo.framerate.inherited hnegative).trans hvideo.framerate.globally
  · exact (haudio.dtx.inherited rfl).trans haudio.dtx.globally

/-- DTX is on for all sources, and `auto` for one of them: it stays on. -/
theorem Audio.not_mergesByField_auto :
    ¬ Audio.MergesByField ⟨0, lit "enabled", lit "auto"⟩ ⟨-1, lit "auto", []⟩
      (Audio.parsePublishOptions ⟨0, lit "enabled", lit "auto"⟩ : TrackPublishOptions ℤ)
      (Audio.parseEntryPublishOptions ⟨-1, lit "auto", []⟩
        (Audio.parsePublishOptions ⟨0, lit "enabled", lit "auto"⟩)) := by
  intro h
  have hreset : some true = none := h.dtx.reset rfl
  cases hreset

end LivekitBridge
