import LivekitBridge.Lib.Simulation
import LivekitBridge.Streams.Rules
import LivekitBridge.Utils.FailureHandler
import LivekitBridge.Utils.MessageStream
import LivekitBridge.Video.StreamLocks

/-!
# The pipeline behind a ROS video topic

`video/ros_stream.cpp`.  A frame is pushed into an appsrc whose caps were written for the frame
that started the pipeline, so the stream remembers the layout or the codec it started with, and
starts again when a frame differs.  Whatever goes wrong on the way leaves no pipeline and nothing
remembered, and the next frame starts from there.

A failure that GStreamer reports is handled by the worker of a `FailureHandler` without delay.
Each section of `mutex_` and of the handler's mutex is one step; how the sections wait for each
other is `Video.StreamLocks`.  The handler's `cancelPending` inside a section of `mutex_` is part
of it: only the worker can come in between, and what it does then it could have done before.  `close` takes
three steps, and an image or a failure may come at any time, also after it.

What GStreamer answers is `Answers`.  The parsing of a description, and what a pipeline does with
its buffers, is GStreamer's.
-/

namespace LivekitBridge

open Lib

namespace Video

/-! ### Frames -/

/-- `builtin_interfaces::msg::Time` -/
structure Stamp where
  sec : Int32
  nanosec : UInt32
deriving DecidableEq, Repr

/-- The input of a stream, with what rclcpp and GStreamer make of a frame. -/
structure RosSetup extends RosInput where
  /-- `rclcpp::Time(stamp).nanoseconds()`; a negative time does not make a `rclcpp::Time`. -/
  nanoseconds : Stamp → Except Str Nat
  /-- `gst_video_format_to_string` -/
  formatToString : Nat → Str

structure Image where
  stamp : Stamp
  width : UInt32
  height : UInt32
  encoding : Str
  step : UInt32
  data : List UInt8
deriving DecidableEq, Repr

structure CompressedImage where
  stamp : Stamp
  format : Str
  data : List UInt8
deriving DecidableEq, Repr

/-! `GstVideoFormat`, the values that a ROS encoding may stand for. -/

namespace GstVideoFormat

def unknown : Nat := 0
def yuy2 : Nat := 4
def uyvy : Nat := 5
def rgba : Nat := 11
def bgra : Nat := 12
def rgb : Nat := 15
def bgr : Nat := 16
def gray8 : Nat := 25
def gray16Le : Nat := 27

end GstVideoFormat

def formatFromRosEncoding (encoding : Str) : Nat :=
  if encoding = lit "mono8" then GstVideoFormat.gray8
  else if encoding = lit "mono16" then GstVideoFormat.gray16Le
  else if encoding = lit "rgb8" then GstVideoFormat.rgb
  else if encoding = lit "bgr8" then GstVideoFormat.bgr
  else if encoding = lit "rgba8" then GstVideoFormat.rgba
  else if encoding = lit "bgra8" then GstVideoFormat.bgra
  else if encoding = lit "yuv422" then GstVideoFormat.uyvy
  else if encoding = lit "yuv422_yuy2" then GstVideoFormat.yuy2
  else GstVideoFormat.unknown

/-- `std::tolower` in the "C" locale. -/
def toLower (ch : UInt8) : UInt8 := if 0x41 ≤ ch && ch ≤ 0x5A then ch + 0x20 else ch

/-- The bytes of `" \t\r\n"`. -/
def isTokenEnd (ch : UInt8) : Bool := ch == 0x20 || ch == 0x09 || ch == 0x0D || ch == 0x0A

def parseToken (token : Str) : Option Str :=
  let token := ((trim token).takeWhile (!isTokenEnd ·)).map toLower
  if token = lit "jpeg" || token = lit "jpg" then some (lit "jpeg")
  else if token = lit "png" then some (lit "png")
  else none

/-- `';'` -/
def semicolon : UInt8 := 0x3B

def parseCompressedCodec (format : Str) : Option Str :=
  match parseToken (format.takeWhile (· != semicolon)) with
  | some primary => some primary
  | none =>
    match format.dropWhile (· != semicolon) with
    | [] => none
    | _ :: rest => parseToken rest

/-- The layout of an image of this format; `static_cast<int>` keeps the bits. -/
def RawLayout.ofImage (format : Nat) (image : Image) : RawLayout :=
  ⟨image.width.toInt32.toInt, image.height.toInt32.toInt, format, image.step.toNat⟩

/-- The `GstVideoMeta` of a raw buffer. -/
structure VideoMeta where
  format : Nat
  width : UInt32
  height : UInt32
  offset : Nat
  stride : Int
deriving DecidableEq, Repr

/-- A `GstBuffer` for an appsrc. -/
structure AppsrcBuffer where
  data : List UInt8
  pts : Nat
  dts : Nat
  videoMeta : Option VideoMeta
deriving DecidableEq, Repr

/-- What GStreamer answers while a frame is handled. -/
structure Answers where
  /-- whether `start` makes a pipeline that plays, or what it throws -/
  start : Except Str Unit
  /-- `gst_buffer_new_allocate` -/
  allocates : Bool
  /-- `gst_buffer_map` -/
  maps : Bool
  /-- `gst_app_src_push_buffer` returns `GST_FLOW_OK`. -/
  accepts : Bool

def makeStampedBuffer (input : RosSetup) (data : List UInt8) (stamp : Stamp) (answers : Answers) :
    Except Str AppsrcBuffer :=
  if !answers.allocates then .error (lit "Failed to allocate GStreamer buffer.")
  else if !answers.maps then .error (lit "Failed to map GStreamer buffer.")
  else (input.nanoseconds stamp).map fun pts => ⟨data, pts, pts, none⟩

/-! ### The stream -/

/-- A frame of either kind. -/
inductive Frame
  | raw (image : Image)
  | compressed (image : CompressedImage)
deriving DecidableEq, Repr

/-- How far `close` is. -/
inductive CloseStage
  /-- before `failure_handler_.close()` -/
  | handler
  /-- `failure_handler_.close()` joins the worker. -/
  | joining
  /-- before `pipeline_.stop()` -/
  | pipeline
  | finished
deriving DecidableEq, Repr

/-- `RosStream`; of its pipeline the description that it runs, if there is one. -/
structure RosStream where
  isShutdown : Bool
  rawSubscription : Bool
  compressedSubscription : Bool
  rawLayout : Option RawLayout
  codec : Option Str
  pipeline : Option Str
  handler : FailureHandler
  /-- The worker has called `stopPipelineAfterFailure`, which is not in its section yet. -/
  recovering : Bool
  closing : Option CloseStage
deriving DecidableEq, Repr

/-- What is seen of a run. -/
inductive RosStreamEvent
  | subscribed (mode : RosIngestMode)
  | started (description : Str)
  | stopped
  | pushed (frame : Frame) (buffer : AppsrcBuffer) (accepted : Bool)
  /-- `publisher_.onAppsrcPushFailed` -/
  | appsrcPushFailed (what : Str)
  | layoutChanged (previous layout : RawLayout)
  | codecChanged (previous codec : Str)
  | recoveryDisabled (reason : Str)
  | handler (event : FailureEvent)
  | shutdown
deriving DecidableEq, Repr

/-- A stream inside a section, and what was seen since it began. -/
structure Section where
  stream : RosStream
  events : List RosStreamEvent
deriving DecidableEq, Repr

namespace Section

variable (x : Section)

def emit (event : RosStreamEvent) : Section := { x with events := x.events ++ [event] }

/-- `resetPipelineStateLocked` -/
def resetPipelineState : Section :=
  { stream :=
      { x.stream with rawLayout := none, codec := none, handler := x.stream.handler.cancelPending }
    events := x.events ++ [.handler .cancelled] }

def stop : Section :=
  match x.stream.pipeline with
  | none => x
  | some _ => ⟨{ x.stream with pipeline := none }, x.events ++ [.stopped]⟩

/-- `resetPipelineStateLocked` and the stop after it. -/
def drop : Section := x.resetPipelineState.stop

/-- The catch block. -/
def fail (what : Str) : Section := (x.emit (.appsrcPushFailed what)).drop

/-- `gst_app_src_push_buffer`, or what was thrown before it. -/
def push (frame : Frame) (buffer : Except Str AppsrcBuffer) (refusal : Str) (answers : Answers) :
    Section :=
  match buffer with
  | .error what => x.fail what
  | .ok buffer =>
    if answers.accepts then x.emit (.pushed frame buffer true)
    else (x.emit (.pushed frame buffer false)).fail refusal

end Section

/-- The appsrc of `startRawPipelineLocked`. -/
def rawAppsrc (input : RosSetup) (layout : RawLayout) : Str :=
  lit "appsrc name=" ++ kBridgeAppSrcName ++
    lit " is-live=true block=false format=time do-timestamp=true" ++
    lit " caps=video/x-raw,format=" ++ input.formatToString layout.format ++
    lit ",width=" ++ intText false layout.width ++ lit ",height=" ++ intText false layout.height ++
    lit ",framerate=0/1"

/-- The appsrc of `startCompressedPipelineLocked`. -/
def compressedAppsrc (codec : Str) : Str :=
  lit "appsrc name=" ++ kBridgeAppSrcName ++
    lit " is-live=true block=false format=time do-timestamp=true" ++
    if codec = lit "jpeg" then lit " caps=image/jpeg ! jpegdec" else lit " caps=image/png ! pngdec"

namespace RosStream

/-- A stream that was just constructed. -/
def initial : RosStream := ⟨false, false, false, none, none, none, .initial 0, false, none⟩

variable (input : RosSetup)

/-- What `startRawPipelineLocked` starts. -/
def rawDescription (layout : RawLayout) : Str :=
  buildPipelineDescription (rawAppsrc input layout) input.transformFragment

/-- What `startCompressedPipelineLocked` starts. -/
def compressedDescription (codec : Str) : Str :=
  buildPipelineDescription (compressedAppsrc codec) input.transformFragment

/-- `start`; whether the subscription is made is rclcpp's to say. -/
def start (s : RosStream) (subscribes : Except Str Unit) : Except Str Section :=
  if s.isShutdown then .error (lit "Video stream is shut down.")
  else if s.rawSubscription || s.compressedSubscription then .ok ⟨s, []⟩
  else
    subscribes.map fun _ =>
      match input.ingestMode with
      | .rawImage => ⟨{ s with rawSubscription := true }, [.subscribed .rawImage]⟩
      | .compressedImage => ⟨{ s with compressedSubscription := true }, [.subscribed .compressedImage]⟩

/-- `startRawPipelineLocked`, if nothing is thrown. -/
def startRawPipeline (x : Section) (layout : RawLayout) : Section :=
  { stream :=
      { x.stream with pipeline := some (rawDescription input layout), rawLayout := some layout }
    events := x.events ++ [.started (rawDescription input layout)] }

/-- `startCompressedPipelineLocked`, if nothing is thrown. -/
def startCompressedPipeline (x : Section) (codec : Str) : Section :=
  { stream :=
      { x.stream with pipeline := some (compressedDescription input codec), codec := some codec }
    events := x.events ++ [.started (compressedDescription input codec)] }

/-- `pushRawLocked`; the meta is that of `layout`. -/
def pushRaw (x : Section) (layout : RawLayout) (image : Image) (answers : Answers) : Section :=
  x.push (.raw image)
    ((makeStampedBuffer input image.data image.stamp answers).map fun buffer =>
      { buffer with
        videoMeta := some
          { format := layout.format
            width := UInt32.ofInt layout.width
            height := UInt32.ofInt layout.height
            offset := 0
            stride := (UInt32.ofNat layout.stride).toInt32.toInt } })
    (lit "Failed to push raw ROS image into GStreamer.") answers

/-- The end of `onCompressedImage`. -/
def pushCompressed (x : Section) (image : CompressedImage) (answers : Answers) : Section :=
  x.push (.compressed image) (makeStampedBuffer input image.data image.stamp answers)
    (lit "Failed to push compressed ROS image into GStreamer.") answers

/-- The end of `onRawImage` for an image that needs another pipeline. -/
def restartRaw (x : Section) (layout : RawLayout) (image : Image) (answers : Answers) : Section :=
  match answers.start with
  | .error what => x.drop.fail what
  | .ok () => pushRaw input (startRawPipeline input x.drop layout) layout image answers

/-- `onCompressedImage`, with `should_start`. -/
def restartCompressed (x : Section) (codec : Str) (image : CompressedImage) (answers : Answers) :
    Section :=
  match answers.start with
  | .error what => x.drop.fail what
  | .ok () => pushCompressed input (startCompressedPipeline input x.drop codec) image answers

def onRawImage (s : RosStream) (image : Image) (answers : Answers) : Section :=
  if s.isShutdown then ⟨s, []⟩
  else if formatFromRosEncoding image.encoding = GstVideoFormat.unknown then
    Section.fail ⟨s, []⟩ (lit "Unsupported ROS image encoding '" ++ image.encoding ++ lit "'.")
  else
    let layout := RawLayout.ofImage (formatFromRosEncoding image.encoding) image
    match s.rawLayout with
    | none => restartRaw input ⟨s, []⟩ layout image answers
    | some previous =>
      if previous ≠ layout then
        restartRaw input ⟨s, [.layoutChanged previous layout]⟩ layout image answers
      else if s.pipeline.isSome then pushRaw input ⟨s, []⟩ layout image answers
      else restartRaw input ⟨s, []⟩ layout image answers

def onCompressedImage (s : RosStream) (image : CompressedImage) (answers : Answers) : Section :=
  if s.isShutdown then ⟨s, []⟩
  else
    match parseCompressedCodec image.format with
    | none =>
      Section.fail ⟨s, []⟩ (lit "Unsupported compressed image format '" ++ image.format ++ lit "'.")
    | some codec =>
      match s.codec with
      | none => restartCompressed input ⟨s, []⟩ codec image answers
      | some previous =>
        if previous ≠ codec then
          restartCompressed input ⟨s, [.codecChanged previous codec]⟩ codec image answers
        else if s.pipeline.isSome then pushCompressed input ⟨s, []⟩ image answers
        else restartCompressed input ⟨s, []⟩ codec image answers

def onPipelineFailure (s : RosStream) (reason : Str) : Section :=
  if s.isShutdown || s.pipeline.isNone then ⟨s, []⟩
  else
    { stream := { s with handler := s.handler.schedule.1 }
      events := .handler (.scheduled s.handler.schedule.2) ::
        if s.handler.schedule.2 then [.recoveryDisabled reason] else [] }

def stopPipelineAfterFailure (s : RosStream) : Section :=
  if s.isShutdown then ⟨s, []⟩ else Section.drop ⟨s, []⟩

/-- The section of `close`. -/
def shutDown (s : RosStream) : Section :=
  if s.isShutdown then ⟨s, []⟩
  else
    { stream :=
        { s with
          isShutdown := true
          rawSubscription := false
          compressedSubscription := false
          closing := some .handler }
      events := [.shutdown] }

/-- `failure_handler_.close()`, as far as its section. -/
def closeHandler (s : RosStream) : Section :=
  { stream :=
      { s with
        handler := s.handler.close.1
        closing := some (if s.handler.close.2 then .pipeline else .joining) }
    events := .handler .closed :: if s.handler.close.2 then [.handler .closeReturned] else [] }

end RosStream

/-- One section. -/
inductive RosStreamStep (input : RosSetup) : RosStream → List RosStreamEvent → RosStream → Prop
  | start {s : RosStream} {x : Section} (subscribes : Except Str Unit) :
      s.start input subscribes = .ok x → RosStreamStep input s x.events x.stream
  | onRawImage (s : RosStream) (image : Image) (answers : Answers) :
      RosStreamStep input s (s.onRawImage input image answers).events
        (s.onRawImage input image answers).stream
  | onCompressedImage (s : RosStream) (image : CompressedImage) (answers : Answers) :
      RosStreamStep input s (s.onCompressedImage input image answers).events
        (s.onCompressedImage input image answers).stream
  | onPipelineFailure (s : RosStream) (reason : Str) :
      RosStreamStep input s (s.onPipelineFailure reason).events (s.onPipelineFailure reason).stream
  | run {s : RosStream} {t : FailureHandler} {evs : List FailureEvent} (i : Nat) (timedOut : Bool) :
      s.recovering = false → s.handler.run i timedOut = some (t, evs) →
      RosStreamStep input s (evs.map .handler)
        { s with handler := t, recovering := evs.contains .started }
  | recover {s : RosStream} : s.recovering = true →
      RosStreamStep input s s.stopPipelineAfterFailure.events
        { s.stopPipelineAfterFailure.stream with recovering := false }
  | shutDown (s : RosStream) : RosStreamStep input s s.shutDown.events s.shutDown.stream
  | closeHandler {s : RosStream} : s.closing = some .handler →
      RosStreamStep input s s.closeHandler.events s.closeHandler.stream
  | join {s : RosStream} {i : Nat} : s.closing = some .joining → i ∈ s.handler.joining →
      s.handler.workers[i]? = some .returned →
      RosStreamStep input s [.handler .closeReturned]
        { s with
          handler := { s.handler with joining := s.handler.joining.erase i }
          closing := some .pipeline }
  | stop {s : RosStream} : s.closing = some .pipeline →
      RosStreamStep input s (Section.stop ⟨s, []⟩).events
        { (Section.stop ⟨s, []⟩).stream with closing := some .finished }

/-- A stream from its construction on. -/
def rosStreamMachine (input : RosSetup) : Machine RosStream RosStreamEvent where
  start s := s = .initial
  step := RosStreamStep input

/-! ### What a frame needs -/

/-- The pipeline that a frame is for, if there is one. -/
def Frame.description (input : RosSetup) : Frame → Option Str
  | .raw image =>
    if formatFromRosEncoding image.encoding = GstVideoFormat.unknown then none
    else
      some (RosStream.rawDescription input
        (.ofImage (formatFromRosEncoding image.encoding) image))
  | .compressed image =>
    (parseCompressedCodec image.format).map (RosStream.compressedDescription input)

/-- The buffer of a frame: its bytes and its time, and the geometry of a raw one. -/
def Frame.buffer (input : RosSetup) (answers : Answers) : Frame → Except Str AppsrcBuffer
  | .raw image =>
    (makeStampedBuffer input image.data image.stamp answers).map fun buffer =>
      { buffer with
        videoMeta := some
          { format := formatFromRosEncoding image.encoding
            width := image.width
            height := image.height
            offset := 0
            stride := image.step.toInt32.toInt } }
  | .compressed image => makeStampedBuffer input image.data image.stamp answers

/-- What the stream remembers of the frame it started a pipeline for. -/
def Frame.remember (s : RosStream) : Frame → RosStream
  | .raw image =>
    { s with rawLayout := some (.ofImage (formatFromRosEncoding image.encoding) image) }
  | .compressed image => { s with codec := parseCompressedCodec image.format }

def Frame.Remembered (s : RosStream) : Frame → Prop
  | .raw image =>
    s.rawLayout = some (.ofImage (formatFromRosEncoding image.encoding) image)
  | .compressed image => s.codec = parseCompressedCodec image.format

def RosStreamEvent.isLog : RosStreamEvent → Bool
  | .appsrcPushFailed _ => true
  | .layoutChanged _ _ => true
  | .codecChanged _ _ => true
  | .recoveryDisabled _ => true
  | _ => false

inductive Handled (input : RosSetup) (s : RosStream) (frame : Frame) (answers : Answers) :
    Section → Prop
  | ignored : s.isShutdown = true → Handled input s frame answers ⟨s, []⟩
  | unsupported (what : Str) : s.isShutdown = false → frame.description input = none →
      Handled input s frame answers (Section.fail ⟨s, []⟩ what)
  | pushed {description : Str} (refusal : Str) : s.isShutdown = false →
      frame.description input = some description → frame.Remembered s → s.pipeline.isSome = true →
      Handled input s frame answers
        (Section.push ⟨s, []⟩ frame (frame.buffer input answers) refusal answers)
  | notStarted {description : Str} (logged : List RosStreamEvent) (what : Str) :
      s.isShutdown = false → frame.description input = some description →
      ¬ (frame.Remembered s ∧ s.pipeline.isSome = true) → (∀ e ∈ logged, e.isLog = true) →
      answers.start = .error what →
      Handled input s frame answers ((Section.drop ⟨s, logged⟩).fail what)
  | restarted {description : Str} (logged : List RosStreamEvent) (refusal : Str) :
      s.isShutdown = false → frame.description input = some description →
      ¬ (frame.Remembered s ∧ s.pipeline.isSome = true) → (∀ e ∈ logged, e.isLog = true) →
      answers.start = .ok () →
      Handled input s frame answers
        (Section.push
          { stream :=
              frame.remember
                { (Section.drop ⟨s, logged⟩).stream with pipeline := some description }
            events := (Section.drop ⟨s, logged⟩).events ++ [.started description] }
          frame (frame.buffer input answers) refusal answers)

theorem pushRaw_ofImage (input : RosSetup) (x : Section) (image : Image) (answers : Answers) :
    RosStream.pushRaw input x (.ofImage (formatFromRosEncoding image.encoding) image) image answers =
      x.push (.raw image) (Frame.buffer input answers (.raw image))
        (lit "Failed to push raw ROS image into GStreamer.") answers := by
  have hcast : ∀ w : UInt32, UInt32.ofInt w.toInt32.toInt = w := by
    intro w
    have hint : w.toInt32.toInt = w.toBitVec.toInt := rfl
    have hbits : (w.toBitVec.toInt % 2 ^ 32).toNat = w.toNat := by
      have hsign := w.toBitVec.toInt_eq_toNat_cond
      have hlt := w.toNat_lt
      rw [UInt32.toNat_toBitVec] at hsign
      split at hsign <;> omega
    rw [UInt32.ofInt, hint, hbits, UInt32.ofNat_toNat]
  simp only [RosStream.pushRaw, Frame.buffer, RawLayout.ofImage, hcast, UInt32.ofNat_toNat]

theorem handled_restartRaw {input : RosSetup} {s : RosStream} {image : Image} {answers : Answers}
    {logged : List RosStreamEvent} (hopen : s.isShutdown = false)
    (hformat : formatFromRosEncoding image.encoding ≠ GstVideoFormat.unknown)
    (hother : ¬ (Frame.Remembered s (.raw image) ∧ s.pipeline.isSome = true))
    (hlogged : ∀ e ∈ logged, e.isLog = true) :
    Handled input s (.raw image) answers
      (RosStream.restartRaw input ⟨s, logged⟩
        (.ofImage (formatFromRosEncoding image.encoding) image) image answers) := by
  have hdescription : Frame.description input (.raw image) =
      some (RosStream.rawDescription input
        (.ofImage (formatFromRosEncoding image.encoding) image)) := if_neg hformat
  unfold RosStream.restartRaw
  split
  · rename_i what hstart
    exact .notStarted logged what hopen hdescription hother hlogged hstart
  · rename_i hstart
    rw [pushRaw_ofImage]
    exact .restarted logged _ hopen hdescription hother hlogged hstart

theorem handled_onRawImage (input : RosSetup) (s : RosStream) (image : Image) (answers : Answers) :
    Handled input s (.raw image) answers (s.onRawImage input image answers) := by
  unfold RosStream.onRawImage
  split
  · rename_i hshut
    exact .ignored hshut
  · rename_i hopen
    rw [Bool.not_eq_true] at hopen
    split
    · rename_i hformat
      exact .unsupported _ hopen (if_pos hformat)
    · rename_i hformat
      dsimp only
      split
      · rename_i hnone
        refine handled_restartRaw hopen hformat ?_ (by simp)
        rintro ⟨hremembered, -⟩
        rw [Frame.Remembered, hnone] at hremembered
        cases hremembered
      · rename_i previous hprevious
        split
        · rename_i hchanged
          refine handled_restartRaw hopen hformat ?_ (by simp [RosStreamEvent.isLog])
          rintro ⟨hremembered, -⟩
          rw [Frame.Remembered, hprevious] at hremembered
          exact hchanged (Option.some.inj hremembered)
        · rename_i hsame
          rw [ne_eq, not_not] at hsame
          split
          · rename_i hactive
            rw [pushRaw_ofImage]
            refine .pushed _ hopen (if_neg hformat) ?_ hactive
            rw [Frame.Remembered, hprevious, hsame]
          · rename_i hactive
            exact handled_restartRaw hopen hformat (fun h => hactive h.2) (by simp)

theorem handled_restartCompressed {input : RosSetup} {s : RosStream} {image : CompressedImage}
    {answers : Answers} {codec : Str} {logged : List RosStreamEvent} (hopen : s.isShutdown = false)
    (hcodec : parseCompressedCodec image.format = some codec)
    (hother : ¬ (Frame.Remembered s (.compressed image) ∧ s.pipeline.isSome = true))
    (hlogged : ∀ e ∈ logged, e.isLog = true) :
    Handled input s (.compressed image) answers
      (RosStream.restartCompressed input ⟨s, logged⟩ codec image answers) := by
  have hdescription : Frame.description input (.compressed image) =
      some (RosStream.compressedDescription input codec) := congrArg (Option.map _) hcodec
  unfold RosStream.restartCompressed
  split
  · rename_i what hstart
    exact .notStarted logged what hopen hdescription hother hlogged hstart
  · rename_i hstart
    have hrestarted := Handled.restarted logged
      (lit "Failed to push compressed ROS image into GStreamer.") hopen hdescription hother hlogged
      hstart
    rw [Frame.remember, hcodec] at hrestarted
    exact hrestarted

theorem handled_onCompressedImage (input : RosSetup) (s : RosStream) (image : CompressedImage)
    (answers : Answers) :
    Handled input s (.compressed image) answers (s.onCompressedImage input image answers) := by
  unfold RosStream.onCompressedImage
  split
  · rename_i hshut
    exact .ignored hshut
  · rename_i hopen
    rw [Bool.not_eq_true] at hopen
    split
    · rename_i hcodec
      exact .unsupported _ hopen (congrArg (Option.map _) hcodec)
    · rename_i codec hcodec
      split
      · rename_i hnone
        refine handled_restartCompressed hopen hcodec ?_ (by simp)
        rintro ⟨hremembered, -⟩
        rw [Frame.Remembered, hnone, hcodec] at hremembered
        cases hremembered
      · rename_i previous hprevious
        split
        · rename_i hchanged
          refine handled_restartCompressed hopen hcodec ?_ (by simp [RosStreamEvent.isLog])
          rintro ⟨hremembered, -⟩
          rw [Frame.Remembered, hprevious, hcodec] at hremembered
          exact hchanged (Option.some.inj hremembered)
        · rename_i hsame
          rw [ne_eq, not_not] at hsame
          split
          · rename_i hactive
            refine .pushed _ hopen (congrArg (Option.map _) hcodec) ?_ hactive
            rw [Frame.Remembered, hprevious, hcodec, hsame]
          · rename_i hactive
            exact handled_restartCompressed hopen hcodec (fun h => hactive h.2) (by simp)

/-! ### The handler -/

/-- What the handler sees of it. -/
def RosStreamEvent.ofHandler : RosStreamEvent → Option FailureEvent
  | .handler event => some event
  | _ => none

/-- The handler has come from `s` to that of `x` by what `x` saw. -/
def HandlerRuns (s : FailureHandler) (x : Section) : Prop :=
  Machine.Runs (failures 0) s (x.events.filterMap RosStreamEvent.ofHandler) x.stream.handler

section Handler

variable {input : RosSetup} {x : Section} {s : FailureHandler}

theorem handlerRuns_emit (h : HandlerRuns s x) (event : RosStreamEvent)
    (hevent : event.ofHandler = none) : HandlerRuns s (x.emit event) := by
  rw [HandlerRuns, Section.emit, List.filterMap_append, List.filterMap_cons_none hevent,
    List.filterMap_nil, List.append_nil]
  exact h

theorem handlerRuns_stop (h : HandlerRuns s x) : HandlerRuns s x.stop := by
  unfold Section.stop
  split
  · exact h
  · rw [HandlerRuns, List.filterMap_append, show [RosStreamEvent.stopped].filterMap
      RosStreamEvent.ofHandler = [] from rfl, List.append_nil]
    exact h

theorem handlerRuns_drop (h : HandlerRuns s x) : HandlerRuns s x.drop := by
  apply handlerRuns_stop
  rw [HandlerRuns, Section.resetPipelineState, List.filterMap_append]
  exact Machine.Runs.step h (.cancelPending _)

theorem handlerRuns_fail (h : HandlerRuns s x) (what : Str) : HandlerRuns s (x.fail what) :=
  handlerRuns_drop (handlerRuns_emit h _ rfl)

theorem handlerRuns_push (h : HandlerRuns s x) (frame : Frame) (buffer : Except Str AppsrcBuffer)
    (refusal : Str) (answers : Answers) : HandlerRuns s (x.push frame buffer refusal answers) := by
  unfold Section.push
  split
  · exact handlerRuns_fail h _
  · split
    · exact handlerRuns_emit h _ rfl
    · exact handlerRuns_fail (handlerRuns_emit h _ rfl) _

theorem handlerRuns_logged {s : RosStream} {logged : List RosStreamEvent}
    (hlogged : ∀ e ∈ logged, e.isLog = true) : HandlerRuns s.handler ⟨s, logged⟩ := by
  have hnone : logged.filterMap RosStreamEvent.ofHandler = [] := by
    rw [List.filterMap_eq_nil_iff]
    intro e he
    have hlog := hlogged e he
    cases e with
    | handler event => cases hlog
    | _ => rfl
  rw [HandlerRuns, hnone]
  exact .refl

theorem handlerRuns_handled {s : RosStream} {frame : Frame} {answers : Answers}
    (h : Handled input s frame answers x) : HandlerRuns s.handler x := by
  cases h with
  | ignored _ => exact handlerRuns_logged (by simp)
  | unsupported what _ _ => exact handlerRuns_fail (handlerRuns_logged (by simp)) what
  | pushed refusal _ _ _ _ => exact handlerRuns_push (handlerRuns_logged (by simp)) _ _ _ _
  | notStarted logged what _ _ _ hlogged _ =>
    exact handlerRuns_fail (handlerRuns_drop (handlerRuns_logged hlogged)) what
  | @restarted description logged refusal _ _ _ hlogged _ =>
    have hdropped := handlerRuns_drop (handlerRuns_logged (s := s) hlogged)
    apply handlerRuns_push
    have hstarted := handlerRuns_emit hdropped (.started description) rfl
    cases frame with
    | raw image => exact hstarted
    | compressed image => exact hstarted

end Handler

/-- A run of the stream is a run of its handler. -/
theorem projects_rosStream (input : RosSetup) :
    Machine.Projects (rosStreamMachine input) (failures 0) RosStream.handler
      RosStreamEvent.ofHandler where
  start := by
    rintro _ rfl
    rfl
  step := by
    intro tr evs s t _ hs
    cases hs with
    | start subscribes hstart =>
      unfold RosStream.start at hstart
      split at hstart
      · cases hstart
      · split at hstart
        · cases hstart
          exact .refl
        · cases subscribes with
          | error what => cases hstart
          | ok _ =>
            cases hstart
            split
            · exact .refl
            · exact .refl
    | onRawImage image answers => exact handlerRuns_handled (handled_onRawImage input s image answers)
    | onCompressedImage image answers =>
      exact handlerRuns_handled (handled_onCompressedImage input s image answers)
    | onPipelineFailure reason =>
      unfold RosStream.onPipelineFailure
      split
      · exact .refl
      · have hevs : (.handler (.scheduled s.handler.schedule.2) ::
            if s.handler.schedule.2 then [.recoveryDisabled reason] else []).filterMap
              RosStreamEvent.ofHandler = [.scheduled s.handler.schedule.2] := by
          split <;> rfl
        rw [hevs]
        exact .single (.schedule _)
    | run i timedOut _ hrun =>
      rw [List.filterMap_map, show RosStreamEvent.ofHandler ∘ RosStreamEvent.handler = some from rfl,
        List.filterMap_some]
      exact .single (.run i timedOut hrun)
    | recover _ =>
      show HandlerRuns s.handler s.stopPipelineAfterFailure
      unfold RosStream.stopPipelineAfterFailure
      split
      · exact handlerRuns_logged (by simp)
      · exact handlerRuns_drop (handlerRuns_logged (by simp))
    | shutDown =>
      unfold RosStream.shutDown
      split
      · exact .refl
      · exact .refl
    | closeHandler _ =>
      have hevs : s.closeHandler.events.filterMap RosStreamEvent.ofHandler =
          .closed :: if s.handler.close.2 then [.closeReturned] else [] := by
        unfold RosStream.closeHandler
        dsimp only
        split <;> rfl
      rw [hevs]
      exact .single (.close _)
    | join _ hjoining hreturned => exact .single (.join hjoining hreturned)
    | stop _ => exact handlerRuns_stop (handlerRuns_logged (by simp))

theorem shaped_handler {input : RosSetup} {tr : List RosStreamEvent} {s : RosStream}
    (h : (rosStreamMachine input).Trace tr s) : Shaped s.handler :=
  shaped ((projects_rosStream input).trace h)

end Video

end LivekitBridge
