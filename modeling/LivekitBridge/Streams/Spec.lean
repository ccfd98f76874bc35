import LivekitBridge.Names.Pattern
import LivekitBridge.Lib.Assoc

/-!
# Stream specifications

`video/stream_spec.cpp` and `audio/stream_spec.cpp`: what a request for a video
or an audio stream resolves to.  A ROS topic is a video stream when its interface
type is an image type and a configured rule matches its name; the longest pattern
wins, and among equals the first.  `other_video` and `other_audio` sources are
looked up by their trimmed name.

The publish options of the LiveKit SDK are carried by the source through these
functions unread and are not part of the model.
-/

namespace LivekitBridge

/-! ### Names of tracks -/

def isUnreservedByte (byte : UInt8) : Bool :=
  (0x41 ≤ byte && byte ≤ 0x5A) || (0x61 ≤ byte && byte ≤ 0x7A) || (0x30 ≤ byte && byte ≤ 0x39) ||
    byte == 0x2D || byte == 0x2E || byte == 0x5F || byte == 0x7E

def kHexDigits : Str := lit "0123456789ABCDEF"

def percentEncodeUnreserved (name : Str) : Str :=
  name.flatMap fun byte =>
    if isUnreservedByte byte then [byte]
    else [0x25, kHexDigits.getD (byte >>> 4).toNat 0, kHexDigits.getD (byte &&& 0x0F).toNat 0]

/-- `'.'` -/
def dot : UInt8 := 0x2E

/-- `':'` -/
def colon : UInt8 := 0x3A

/-- One byte of the loop of `makeRosTopicTrackSuffix`. -/
def appendTrackByte (suffix : Str) (ch : UInt8) : Str :=
  if ch ≠ slash ∧ ch ≠ colon then suffix ++ [ch]
  else if suffix ≠ [] ∧ suffix.getLast? ≠ some dot then suffix ++ [dot]
  else suffix

def makeRosTopicTrackSuffix (topic : Str) : Str :=
  ((topic.foldl appendTrackByte []).dropWhile (· == dot)).rdropWhile (· == dot)

example : makeRosTopicTrackSuffix (lit "/cam//front:raw/") = lit "cam.front.raw" := by decide

def findBestRosResourcePatternMatch {α : Type} (entries : List α) (resource : Str)
    (pattern : α → RosResourcePattern) : Option α :=
  entries.foldl (fun found entry =>
    if (pattern entry).matchesResource resource then
      match found with
      | some best =>
        if (pattern entry).canonical.length ≤ (pattern best).canonical.length then found
        else some entry
      | none => some entry
    else found) none

def requireSingleType (graph : AList fun _ : Str => List Str) (resource kind : Str) :
    Except Str Str :=
  match graph.lookup resource with
  | none => .error (lit "No ROS types found for " ++ kind ++ lit " '" ++ resource ++ lit "'.")
  | some [type] => .ok type
  | some _ => .error (lit "Multiple ROS types found for " ++ kind ++ lit " '" ++ resource ++ lit "'.")

/-! ### Configured sources -/

/-- `OtherSource`, the same in both namespaces of the source. -/
structure OtherSource where
  sourceFragment : Str
  transformFragment : Str
deriving DecidableEq, Repr

/-- `OtherInput`, the same in both namespaces of the source. -/
structure OtherInput where
  name : Str
  sourceFragment : Str
  transformFragment : Str
deriving DecidableEq, Repr

/-- The lookup the two `resolveOtherSourceSpec` share: `what` is "video" or
"audio". -/
def findOtherSource (sources : AList fun _ : Str => OtherSource) (what sourceName : Str) :
    Except Str OtherInput :=
  let name := trim sourceName
  if name = [] then .error (lit "Invalid other " ++ what ++ lit " name.")
  else
    match sources.lookup name with
    | none => .error (lit "Unknown other " ++ what ++ lit " source '" ++ name ++ lit "'.")
    | some source => .ok ⟨name, source.sourceFragment, source.transformFragment⟩

/-! ### Video -/

namespace Video

structure RosTopicRule where
  pattern : RosResourcePattern
  ruleId : Str
  transformFragment : Str
deriving DecidableEq, Repr

structure StreamConfig where
  rosTopicRules : List RosTopicRule
  otherSources : AList fun _ : Str => OtherSource

def makeDefaultConfig : StreamConfig :=
  ⟨[⟨RosResourcePattern.rootSubtree, lit "default_ros", []⟩], ∅⟩

inductive RosIngestMode
  | rawImage
  | compressedImage
deriving DecidableEq, Repr

structure RosInput where
  topic : Str
  interfaceType : Str
  ingestMode : RosIngestMode
  ruleId : Str
  transformFragment : Str
deriving DecidableEq, Repr

inductive StreamInput
  | ros (input : RosInput)
  | other (input : OtherInput)
deriving DecidableEq, Repr

structure StreamSpec where
  streamKey : Str
  trackName : Str
  input : StreamInput
deriving DecidableEq, Repr

def classifyRosIngestMode (interfaceType : Str) : Option RosIngestMode :=
  if interfaceType = lit "sensor_msgs/msg/Image" then some .rawImage
  else if interfaceType = lit "sensor_msgs/msg/CompressedImage" then some .compressedImage
  else none

/-- The node name that `normalizeRosResourceName(name)` expands from. -/
def kResourceNodeName : Str := lit "livekit_ros2_bridge_resource_name"

/-- `video::resolveRosTopicSpec`, with `selectRosTopicRule` in it. -/
def resolveRosTopicSpec (expand : Expand) (config : StreamConfig)
    (requestedTopic interfaceType : Str) : Except Str StreamSpec :=
  let topic := normalizeRosResourceName expand requestedTopic kResourceNodeName (lit "/") false
  if topic = [] then .error (lit "Invalid ROS topic.")
  else
    match classifyRosIngestMode interfaceType with
    | none => .error (lit "ROS topic is not a supported video type.")
    | some ingestMode =>
      match findBestRosResourcePatternMatch config.rosTopicRules topic RosTopicRule.pattern with
      | none => .error (lit "no matching video rule for topic '" ++ topic ++ lit "'")
      | some rule =>
        .ok
          { streamKey := lit "topic" ++ lit ":" ++ topic
            trackName := lit "lkros.video." ++ makeRosTopicTrackSuffix topic
            input := .ros ⟨topic, interfaceType, ingestMode, rule.ruleId, rule.transformFragment⟩ }

def resolveOtherSourceSpec (config : StreamConfig) (sourceName : Str) : Except Str StreamSpec :=
  match findOtherSource config.otherSources (lit "video") sourceName with
  | .error what => .error what
  | .ok input =>
    .ok
      { streamKey := lit "other_video" ++ lit ":" ++ input.name
        trackName := lit "lkros.video.other." ++ percentEncodeUnreserved input.name
        input := .other input }

end Video

/-! ### Audio -/

namespace Audio

structure StreamConfig where
  otherSources : AList fun _ : Str => OtherSource

def makeDefaultConfig : StreamConfig := ⟨∅⟩

structure StreamSpec where
  streamKey : Str
  trackName : Str
  input : OtherInput
deriving DecidableEq, Repr

def resolveOtherSourceSpec (config : StreamConfig) (sourceName : Str) : Except Str StreamSpec :=
  match findOtherSource config.otherSources (lit "audio") sourceName with
  | .error what => .error what
  | .ok input =>
    .ok
      { streamKey := lit "other_audio" ++ lit ":" ++ input.name
        trackName := lit "lkros.audio.other." ++ percentEncodeUnreserved input.name
        input := input }

end Audio

end LivekitBridge
