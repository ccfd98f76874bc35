import LivekitBridge.Lib.Locking
import LivekitBridge.Lib.Machine
import LivekitBridge.Text

/-!
# Video streams and their pipelines

`video/gstreamer_stream.cpp`, `video/ros_stream.cpp`, `video/gstreamer_pipeline.cpp` and
`utils/pipeline_failure_handler.cpp`, as far as threads can wait for each other in them.  A
stream has a mutex and a pipeline.  Its methods hold the mutex while they set the pipeline up
or stop it, and stopping waits for the callbacks that GStreamer has in progress; the callbacks
lock the same mutex, to ask whether the stream is shut down and to report a failure.

GStreamer may run a callback on a thread of its own whenever handlers are attached, and on the
thread that is in `gst_element_set_state`; when the pipeline is set to `NULL` it joins its own
threads.  The region of `Lib.Code` is `GStreamerPipeline::start` and `stop`.

An access to fields under the mutex is one step.  The failure handler's own mutex is held for
single accesses only, and these are one step each too; the delay before a restart is any time.
What the streams log, publish and subscribe to takes no part in the waiting.
-/

namespace LivekitBridge

open Lib

namespace Video

structure RawLayout where
  width : Int
  height : Int
  format : Nat
  stride : Nat
deriving DecidableEq, Repr

/-- The fields of a stream, of its pipeline and of its failure handler. -/
structure StreamFields where
  isShutdown : Bool
  rawLayout : Option RawLayout
  codec : Option Str
  /-- `pipeline_` is not null. -/
  isActive : Bool
  /-- The sample callback and the bus handler are set. -/
  attached : Bool
  callbackState : UInt64
  /-- `closed_` of the failure handler -/
  closed : Bool
  /-- `pending_` of the failure handler -/
  pending : Bool
  /-- `callback_running_` of the failure handler -/
  callbackRunning : Bool
deriving DecidableEq, Repr

/-- What a thread waits for. -/
inductive StreamWait
  /-- `gst_element_set_state(GST_STATE_NULL)` joins the streaming threads. -/
  | streamingThreads
  /-- `stopCallbacksAndWait` -/
  | callbacks
  /-- `worker.join()` in `PipelineFailureHandler::close` -/
  | worker
deriving DecidableEq, Repr

abbrev StreamCode := Code StreamFields StreamWait

abbrev StreamSystem := LockSystem StreamFields StreamWait

/-- One access that only reads. -/
def read (f : StreamFields → Bool) (next : Bool → StreamCode) : StreamCode :=
  .access (fun fields => (f fields, fields)) next

/-- One access that only writes. -/
def write (f : StreamFields → StreamFields) (next : StreamCode) : StreamCode :=
  .access (fun fields => (true, f fields)) fun _ => next

/-! ### The pipeline -/

def kCallbacksStopped : UInt64 := 0x8000000000000000

def kCallbackCountMask : UInt64 := ~~~ kCallbacksStopped

def beginCallback (fields : StreamFields) : Bool × StreamFields :=
  if fields.callbackState &&& kCallbacksStopped = 0 then
    (true, { fields with callbackState := fields.callbackState + 1 })
  else (false, fields)

def endCallback (fields : StreamFields) : StreamFields :=
  { fields with callbackState := fields.callbackState - 1 }

/-- The body of `GStreamerPipeline::stop`. -/
def stopBody (next : StreamCode) : StreamCode :=
  read (·.isActive) fun
    | false => next
    | true =>
      write (fun fields => { fields with attached := false }) <|
      .foreign fun _ =>
      .await .streamingThreads <|
      write (fun fields => { fields with
        callbackState := fields.callbackState ||| kCallbacksStopped }) <|
      .await .callbacks <|
      write (fun fields => { fields with isActive := false }) next

/-- A call of `GStreamerPipeline::stop`. -/
def stopPipeline (next : StreamCode) : StreamCode := .enter (stopBody (.leave next))

/-- A call of `GStreamerPipeline::start`, which returns or throws.  Whether the description
makes a pipeline, and whether it can play, is GStreamer's to say. -/
def startPipeline (returned thrown : StreamCode) : StreamCode :=
  .enter <| stopBody <|
  write (fun fields => { fields with callbackState := 0 }) <|
  .outcome fun
    | false => .leave thrown
    | true =>
      write (fun fields => { fields with attached := true, isActive := true }) <|
      .foreign fun
        | true => .leave returned
        | false => stopBody (.leave thrown)

/-! ### The failure handler -/

def schedule (fields : StreamFields) : Bool × StreamFields :=
  if fields.closed || fields.pending || fields.callbackRunning then (false, fields)
  else (true, { fields with pending := true })

/-- `PipelineFailureHandler::close` -/
def closeHandler (next : StreamCode) : StreamCode :=
  .access (fun fields => (fields.closed, { fields with closed := true })) fun
    | true => next
    | false => .await .worker next

/-- The end of `run` after its callback. -/
def finishRecovery : StreamCode :=
  write (fun fields => { fields with callbackRunning := false, pending := false }) .ret

/-! ### The streams -/

/-- `video::GStreamerStream` and `video::RosStream`. -/
inductive StreamKind
  | gstreamer
  | ros
deriving DecidableEq, Repr

/-- A method that takes the mutex and returns at once if the stream is shut down. -/
def underLock (shutdown body : StreamCode) : StreamCode :=
  .lock <| read (·.isShutdown) fun
    | true => .unlock shutdown
    | false => body

/-- `GStreamerStream::start` -/
def startStream : StreamCode := underLock .ret (startPipeline (.unlock .ret) (.unlock .ret))

def restartPipelineAfterFailure : StreamCode :=
  underLock finishRecovery <| stopPipeline <|
    startPipeline (.unlock finishRecovery) (.unlock finishRecovery)

/-- `GStreamerStream::close` and `RosStream::close`. -/
def closeStream : StreamCode :=
  underLock .ret <|
  write (fun fields => { fields with isShutdown := true }) <|
  .unlock <| closeHandler <| stopPipeline .ret

/-- `resetPipelineStateLocked` -/
def resetPipelineState (fields : StreamFields) : StreamFields :=
  { fields with rawLayout := none, codec := none, pending := false }

def stopPipelineAfterFailure : StreamCode :=
  underLock finishRecovery <| write resetPipelineState <| stopPipeline (.unlock finishRecovery)

/-- The catch block of the image callbacks. -/
def dropPipeline : StreamCode := write resetPipelineState <| stopPipeline (.unlock .ret)

/-- `gst_app_src_push_buffer`, which may fail. -/
def pushBuffer : StreamCode :=
  .outcome fun
    | true => .unlock .ret
    | false => dropPipeline

/-- The common part of the image callbacks: push into the pipeline if it is for images like
this one, and otherwise set up one that is. -/
def onImage (isCurrent : StreamFields → Bool) (remember : StreamFields → StreamFields) : StreamCode :=
  read isCurrent fun
    | true => pushBuffer
    | false =>
      write resetPipelineState <| stopPipeline <|
        startPipeline (write remember pushBuffer) dropPipeline

/-- `RosStream::onRawImage`; none is an image of an unsupported encoding. -/
def onRawImage (image : Option RawLayout) : StreamCode :=
  underLock .ret <|
  match image with
  | none => dropPipeline
  | some layout =>
    onImage (fun fields => fields.rawLayout = some layout && fields.isActive)
      fun fields => { fields with rawLayout := some layout }

/-- `RosStream::onCompressedImage`; none is an image of an unsupported format. -/
def onCompressedImage (image : Option Str) : StreamCode :=
  underLock .ret <|
  match image with
  | none => dropPipeline
  | some codec =>
    onImage (fun fields => fields.codec = some codec && fields.isActive)
      fun fields => { fields with codec := some codec }

/-! ### The callbacks -/

/-- The `is_shutdown` of `PipelineCallbacks`. -/
def isShutdown (next : Bool → StreamCode) : StreamCode :=
  .lock <| read (·.isShutdown) fun shutdown => .unlock (next shutdown)

/-- `onPipelineFailure`, the `on_failed` of `PipelineCallbacks`. -/
def onPipelineFailure (next : StreamCode) : StreamCode :=
  .lock <| read (fun fields => fields.isShutdown || !fields.isActive) fun
    | true => .unlock next
    | false => .access schedule fun _ => .unlock next

/-- What GStreamer calls: a sample, or a message on the bus, which may be an end of stream or an
error. -/
inductive PipelineCallback
  | sample
  | bus (isFailure : Bool)
deriving DecidableEq, Repr

/-- The end of a callback, as it leaves its scope. -/
def leaveCallback : StreamCode := write endCallback .ret

/-- `GStreamerPipeline::onSample`: the sample may be missing, may not unpack, and is handed to
`on_frame` unless the stream is shut down. -/
def onSample : StreamCode :=
  .access beginCallback fun
    | false => .ret
    | true => .outcome fun
      | false => leaveCallback
      | true => isShutdown fun
        | true => leaveCallback
        | false => .outcome fun _ => leaveCallback

def onBusMessage (isFailure : Bool) : StreamCode :=
  .access beginCallback fun
    | false => .ret
    | true => if isFailure then onPipelineFailure leaveCallback else leaveCallback

/-! ### The system -/

/-- A method that is called. -/
inductive StreamCall
  | start
  | close
  | rawImage (image : Option RawLayout)
  | compressedImage (image : Option Str)
deriving DecidableEq, Repr

/-- The methods of each stream. -/
def StreamKind.code : StreamKind → StreamCall → Option StreamCode
  | .gstreamer, .start => some startStream
  | .ros, .rawImage image => some (onRawImage image)
  | .ros, .compressedImage image => some (onCompressedImage image)
  | _, .close => some closeStream
  | _, _ => none

/-- What the failure handler calls. -/
def StreamKind.recovery : StreamKind → StreamCode
  | .gstreamer => restartPipelineAfterFailure
  | .ros => stopPipelineAfterFailure

def PipelineCallback.code : PipelineCallback → StreamCode
  | .sample => onSample
  | .bus isFailure => onBusMessage isFailure

/-- A wait is over. -/
def streamReady : StreamWait → ThreadId → StreamSystem → Bool
  | .streamingThreads, thread, s => s.calls.all fun call => call.1 = thread || !call.2.isCallback
  | .callbacks, _, s => s.shared.callbackState &&& kCallbackCountMask = 0
  | .worker, _, s => !s.shared.callbackRunning

/-- What happens next. -/
inductive StreamAct
  | call (thread : ThreadId) (call : StreamCall)
  /-- The worker of the failure handler runs its callback. -/
  | recover (thread : ThreadId)
  /-- GStreamer calls back. -/
  | callback (thread : ThreadId) (callback : PipelineCallback)
  /-- The innermost call of a thread goes on. -/
  | advance (thread : ThreadId) (choice : Bool)
deriving DecidableEq, Repr

/-- One step. -/
def StreamKind.perform (kind : StreamKind) (s : StreamSystem) : StreamAct → Option StreamSystem
  | .call thread call =>
    match s.calls.innermost thread with
    | some _ => none
    | none => (kind.code call).map fun code => s.push thread (.starting false code)
  | .recover thread =>
    match s.calls.innermost thread with
    | some _ => none
    | none =>
      if s.shared.pending && !s.shared.closed && !s.shared.callbackRunning then
        some (({ s with shared := { s.shared with callbackRunning := true } } : StreamSystem).push
          thread (.starting false kind.recovery))
      else none
  | .callback thread callback =>
    if s.shared.attached && ((s.calls.innermost thread).isNone || s.inForeign thread) then
      some (s.push thread (.starting true callback.code))
    else none
  | .advance thread choice => s.advance streamReady thread choice

/-- A stream that was just constructed. -/
def StreamSystem.initial : StreamSystem :=
  ⟨⟨false, none, none, false, false, 0, false, false, false⟩, none, []⟩

/-- The stream, its pipeline and GStreamer as a machine. -/
def streamMachine (kind : StreamKind) : Machine StreamSystem StreamAct :=
  .driven .initial kind.perform

/-- The step is orderly: no callback comes to the mutex while a thread that holds it is stopping a
pipeline, or on the thread that holds it, and no thread that holds it begins to stop one while a
callback waits. -/
def orderlyAct (s : StreamSystem) : StreamAct → Bool
  | .advance thread choice => s.orderly thread choice
  | _ => true

/-- One step, if it is orderly. -/
def StreamKind.performOrderly (kind : StreamKind) (s : StreamSystem) (act : StreamAct) :
    Option StreamSystem :=
  if orderlyAct s act then kind.perform s act else none

/-- The runs whose steps are all orderly. -/
def orderlyMachine (kind : StreamKind) : Machine StreamSystem StreamAct :=
  .driven .initial kind.performOrderly

/-! ### The locks are well nested -/

section WellNested

variable {holds inside : Bool}

theorem wellNested_read {f : StreamFields → Bool} {next : Bool → StreamCode} :
    (read f next).WellNested holds inside ↔
      (next false).WellNested holds inside ∧ (next true).WellNested holds inside :=
  Bool.forall_bool

theorem wellNested_write {f : StreamFields → StreamFields} {next : StreamCode} :
    (write f next).WellNested holds inside ↔ next.WellNested holds inside :=
  forall_const Bool

theorem wellNested_stopBody {next : StreamCode} (h : next.WellNested holds true) :
    (stopBody next).WellNested holds true :=
  wellNested_read.mpr ⟨h, wellNested_write.mpr ⟨rfl, fun _ _ _ => h⟩⟩

theorem wellNested_stopPipeline {next : StreamCode} (h : next.WellNested holds false) :
    (stopPipeline next).WellNested holds false :=
  ⟨rfl, wellNested_stopBody ⟨rfl, h⟩⟩

theorem wellNested_startPipeline {returned thrown : StreamCode}
    (hreturned : returned.WellNested holds false) (hthrown : thrown.WellNested holds false) :
    (startPipeline returned thrown).WellNested holds false := by
  refine ⟨rfl, wellNested_stopBody (wellNested_write.mpr ?_)⟩
  intro built
  cases built with
  | false => exact ⟨rfl, hthrown⟩
  | true =>
    refine wellNested_write.mpr ⟨rfl, ?_⟩
    intro playing
    cases playing with
    | true => exact ⟨rfl, hreturned⟩
    | false => exact wellNested_stopBody ⟨rfl, hthrown⟩

theorem wellNested_underLock {shutdown body : StreamCode}
    (hshutdown : shutdown.WellNested false false) (hbody : body.WellNested true false) :
    (underLock shutdown body).WellNested false false :=
  ⟨rfl, rfl, wellNested_read.mpr ⟨hbody, rfl, rfl, hshutdown⟩⟩

theorem wellNested_finishRecovery : finishRecovery.WellNested false false :=
  wellNested_write.mpr ⟨rfl, rfl⟩

theorem wellNested_dropPipeline : dropPipeline.WellNested true false :=
  wellNested_write.mpr (wellNested_stopPipeline ⟨rfl, rfl, rfl, rfl⟩)

theorem wellNested_pushBuffer : pushBuffer.WellNested true false := by
  intro result
  cases result with
  | true => exact ⟨rfl, rfl, rfl, rfl⟩
  | false => exact wellNested_dropPipeline

theorem wellNested_onImage (isCurrent : StreamFields → Bool)
    (remember : StreamFields → StreamFields) : (onImage isCurrent remember).WellNested true false :=
  wellNested_read.mpr ⟨wellNested_write.mpr (wellNested_stopPipeline (wellNested_startPipeline
    (wellNested_write.mpr wellNested_pushBuffer) wellNested_dropPipeline)), wellNested_pushBuffer⟩

theorem wellNested_closeStream : closeStream.WellNested false false := by
  refine wellNested_underLock ⟨rfl, rfl⟩ (wellNested_write.mpr ⟨rfl, rfl, ?_⟩)
  have hstop : (stopPipeline .ret).WellNested false false := wellNested_stopPipeline ⟨rfl, rfl⟩
  intro found
  cases found with
  | true => exact hstop
  | false => exact hstop

theorem StreamKind.wellNested_code {kind : StreamKind} {call : StreamCall} {code : StreamCode}
    (h : kind.code call = some code) : code.WellNested false false := by
  have hclose : ∀ {code}, closeStream = code → code.WellNested false false := by
    rintro _ rfl
    exact wellNested_closeStream
  cases kind with
  | gstreamer =>
    cases call with
    | start =>
      obtain rfl := Option.some.inj h
      exact wellNested_underLock ⟨rfl, rfl⟩
        (wellNested_startPipeline ⟨rfl, rfl, rfl, rfl⟩ ⟨rfl, rfl, rfl, rfl⟩)
    | close => exact hclose (Option.some.inj h)
    | rawImage => cases h
    | compressedImage => cases h
  | ros =>
    cases call with
    | start => cases h
    | close => exact hclose (Option.some.inj h)
    | rawImage image =>
      obtain rfl := Option.some.inj h
      refine wellNested_underLock ⟨rfl, rfl⟩ ?_
      cases image with
      | none => exact wellNested_dropPipeline
      | some layout => exact wellNested_onImage _ _
    | compressedImage image =>
      obtain rfl := Option.some.inj h
      refine wellNested_underLock ⟨rfl, rfl⟩ ?_
      cases image with
      | none => exact wellNested_dropPipeline
      | some codec => exact wellNested_onImage _ _

theorem StreamKind.wellNested_recovery (kind : StreamKind) :
    kind.recovery.WellNested false false := by
  have hfinish : (Code.unlock finishRecovery : StreamCode).WellNested true false :=
    ⟨rfl, rfl, wellNested_finishRecovery⟩
  cases kind with
  | gstreamer =>
    exact wellNested_underLock wellNested_finishRecovery
      (wellNested_stopPipeline (wellNested_startPipeline hfinish hfinish))
  | ros =>
    exact wellNested_underLock wellNested_finishRecovery
      (wellNested_write.mpr (wellNested_stopPipeline hfinish))

theorem wellNested_leaveCallback : leaveCallback.WellNested false false :=
  wellNested_write.mpr ⟨rfl, rfl⟩

theorem wellNested_onSample : onSample.WellNested false false := by
  intro begun
  cases begun with
  | false => exact ⟨rfl, rfl⟩
  | true =>
    intro unpacked
    cases unpacked with
    | false => exact wellNested_leaveCallback
    | true =>
      exact ⟨rfl, rfl, wellNested_read.mpr ⟨⟨rfl, rfl, fun _ => wellNested_leaveCallback⟩,
        rfl, rfl, wellNested_leaveCallback⟩⟩

theorem wellNested_onBusMessage (isFailure : Bool) :
    (onBusMessage isFailure).WellNested false false := by
  intro begun
  cases begun with
  | false => exact ⟨rfl, rfl⟩
  | true =>
    cases isFailure with
    | false => exact wellNested_leaveCallback
    | true =>
      exact ⟨rfl, rfl, wellNested_read.mpr ⟨fun _ => ⟨rfl, rfl, wellNested_leaveCallback⟩,
        rfl, rfl, wellNested_leaveCallback⟩⟩

theorem staysOut_leaveCallback : leaveCallback.StaysOut := fun _ => trivial

theorem PipelineCallback.staysOut_code (callback : PipelineCallback) : callback.code.StaysOut := by
  cases callback with
  | sample =>
    intro begun
    cases begun with
    | false => exact trivial
    | true =>
      intro unpacked
      cases unpacked with
      | false => exact staysOut_leaveCallback
      | true =>
        intro isShutdown
        cases isShutdown with
        | false => exact fun _ => staysOut_leaveCallback
        | true => exact staysOut_leaveCallback
  | bus isFailure =>
    intro begun
    cases begun with
    | false => exact trivial
    | true =>
      cases isFailure with
      | false => exact staysOut_leaveCallback
      | true =>
        intro isShutdown
        cases isShutdown with
        | false => exact fun _ => staysOut_leaveCallback
        | true => exact staysOut_leaveCallback

theorem PipelineCallback.wellNested_code (callback : PipelineCallback) :
    callback.code.WellNested false false := by
  cases callback with
  | sample => exact wellNested_onSample
  | bus isFailure => exact wellNested_onBusMessage isFailure

end WellNested

/-! ### Deadlock -/

/-- What every run keeps, and what an orderly one keeps besides. -/
theorem disciplined_perform {kind : StreamKind} {s t : StreamSystem} {act : StreamAct}
    (h : s.Disciplined) (hclear : s.Clear) (horderly : orderlyAct s act = true)
    (hstep : kind.perform s act = some t) : t.Disciplined ∧ t.Clear := by
  cases act with
  | call thread call =>
    rw [StreamKind.perform] at hstep
    split at hstep
    · cases hstep
    · rename_i hidle
      obtain ⟨code, hcode, rfl⟩ := Option.map_eq_some_iff.mp hstep
      exact ⟨h.push (StreamKind.wellNested_code hcode) (.inl hidle) s.shared,
        hclear.push (.inl hidle) (fun hcallback => by cases hcallback) s.shared⟩
  | recover thread =>
    rw [StreamKind.perform] at hstep
    split at hstep
    · cases hstep
    · rename_i hidle
      split at hstep
      · obtain rfl := Option.some.inj hstep
        exact ⟨h.push kind.wellNested_recovery (.inl hidle) _,
          hclear.push (.inl hidle) (fun hcallback => by cases hcallback) _⟩
      · cases hstep
  | callback thread callback =>
    rw [StreamKind.perform] at hstep
    split at hstep
    · rename_i hmay
      rw [Bool.and_eq_true, Bool.or_eq_true, Option.isNone_iff_eq_none] at hmay
      obtain rfl := Option.some.inj hstep
      exact ⟨h.push callback.wellNested_code hmay.2 s.shared,
        hclear.push (.inr rfl) (fun _ => callback.staysOut_code) s.shared⟩
    · cases hstep
  | advance thread choice => exact ⟨h.advance hstep, hclear.advance h horderly hstep⟩

/-- **An orderly run does not deadlock.**  If no callback comes to the mutex while a thread that
holds it is stopping a pipeline, or on the thread that holds it, and no thread that holds it begins
to stop a pipeline while a callback waits for it, then no thread that owns the mutex waits for a
callback that waits for the mutex, and none locks it again through a callback. -/
theorem not_deadlocked_of_orderly (kind : StreamKind) {tr : List StreamAct} {s : StreamSystem}
    (h : (orderlyMachine kind).Trace tr s) : ¬ s.Deadlocked := by
  have hboth : s.Disciplined ∧ s.Clear := by
    refine Machine.Trace.invariant (P := fun _ s => s.Disciplined ∧ s.Clear) ?_ ?_ h
    · rintro s rfl
      exact ⟨⟨rfl, by simp [StreamSystem.initial], by simp [StreamSystem.initial], List.Pairwise.nil⟩,
        ⟨List.Pairwise.nil, by simp [StreamSystem.initial], by simp [StreamSystem.initial,
          LockSystem.waitHeld], by simp [StreamSystem.initial]⟩⟩
    · rintro tr evs s t - ⟨hd, hclear⟩ ⟨act, hact, -⟩
      rw [StreamKind.performOrderly] at hact
      split at hact
      · rename_i horderly
        exact disciplined_perform hd hclear horderly hact
      · cases hact
  exact hboth.2.not_deadlocked hboth.1

/-- A thread goes on for `n` steps. -/
def advances (thread : ThreadId) (n : Nat) : List StreamAct :=
  List.replicate n (.advance thread true)

/-- The stream is started, and plays. -/
def started : List StreamAct := .call 1 .start :: advances 1 12

/-- A frame comes to the mutex while the first `start` plays, and goes through after it. -/
def framed : List StreamAct :=
  .call 1 .start :: advances 1 8 ++ .callback 2 .sample :: advances 2 3 ++ advances 1 4 ++
    advances 2 6

/-- After a frame an orderly run is where it was before. -/
theorem not_deadlocked_of_orderly_framed :
    ∃ s, (orderlyMachine .gstreamer).Trace framed s ∧ s.shared.isActive = true ∧ s.owner = none ∧
      ¬ s.Deadlocked := by
  have htrace : ∃ s, (orderlyMachine .gstreamer).Trace framed s ∧ s.shared.isActive = true ∧
      s.owner = none := ⟨_, Machine.driven_trace rfl, rfl, rfl⟩
  obtain ⟨s, hs, hactive, howner⟩ := htrace
  exact ⟨s, hs, hactive, howner, not_deadlocked_of_orderly .gstreamer hs⟩

/-- No run of the stream reaches a deadlock. -/
def DeadlockFree (kind : StreamKind) : Prop :=
  ∀ tr s, (streamMachine kind).Trace tr s → ¬ s.Deadlocked

/-- A frame has come to the mutex when the worker takes it to restart the pipeline after an
end of stream. -/
def frameDuringRestart : List StreamAct :=
  started ++ .callback 2 .sample :: advances 2 3 ++ .callback 3 (.bus true) :: advances 3 8 ++
    .recover 4 :: advances 4 7

/-- An image starts the pipeline, and an error is reported on the thread that starts it. -/
def errorDuringStart : List StreamAct :=
  .call 1 (.rawImage (some ⟨640, 480, 15, 1920⟩)) :: advances 1 13 ++
    .callback 1 (.bus true) :: advances 1 2

/-- The worker waits for the frame and the frame for the worker; the thread that starts the
pipeline waits for itself. -/
theorem not_deadlockFree : ¬ DeadlockFree .gstreamer ∧ ¬ DeadlockFree .ros := by
  constructor
  · intro hfree
    have hreach : ∃ s, (streamMachine .gstreamer).Trace frameDuringRestart s ∧ s.WaitCycle :=
      ⟨_, Machine.driven_trace rfl, 4, _, _, _, rfl, rfl, rfl, rfl, 2, _, rfl, rfl, rfl⟩
    obtain ⟨s, hs, hcycle⟩ := hreach
    exact hfree _ s hs (.inl hcycle)
  · intro hfree
    have hreach : ∃ s, (streamMachine .ros).Trace errorDuringStart s ∧ s.Relocks :=
      ⟨_, Machine.driven_trace rfl, 1, _, rfl, rfl, rfl, rfl⟩
    obtain ⟨s, hs, hrelocks⟩ := hreach
    exact hfree _ s hs (.inr hrelocks)

end Video

end LivekitBridge
