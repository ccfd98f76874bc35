import LivekitBridge.Video.StreamRoles

/-!
# The programs of the streams

The three streams that run a pipeline, `video::GStreamerStream`, `video::RosStream` and
`audio::GStreamerStream`, have the same `close` and the same failure handler.  They differ in what
their callbacks do with the mutex: those of a video stream lock it, and those of an audio stream
read an atomic flag.

All their code keeps to the rules of `StreamRoles` (`StreamProgram.Keeps`), a method from the role
of a caller on and a callback from that of one that is not counted yet.
-/

namespace LivekitBridge

open Lib

/-! ### The audio stream -/

namespace Audio

/-- `GStreamerStream::onPipelineFailure`, which locks nothing. -/
def onPipelineFailure (next : Video.StreamCode) : Video.StreamCode :=
  Video.read (·.isShutdown) fun
    | true => next
    | false => .access Video.schedule fun _ => next

/-- `GStreamerPipeline::onSample`, which asks the stream's atomic `is_shutdown_`. -/
def onSample : Video.StreamCode :=
  .access Video.beginCallback fun
    | false => .ret
    | true => .outcome fun
      | false => Video.leaveCallback
      | true => Video.read (·.isShutdown) fun
        | true => Video.leaveCallback
        | false => .outcome fun _ => Video.leaveCallback

def onBusMessage (isFailure : Bool) : Video.StreamCode :=
  .access Video.beginCallback fun
    | false => .ret
    | true => if isFailure then onPipelineFailure Video.leaveCallback else Video.leaveCallback

end Audio

namespace Video

/-- What the calls of a stream run. -/
structure StreamProgram where
  /-- Its callbacks lock the mutex. -/
  locking : Bool
  code : StreamCall → Option StreamCode
  recovery : StreamCode
  callback : PipelineCallback → StreamCode

/-- A video stream. -/
def StreamKind.program (kind : StreamKind) : StreamProgram :=
  ⟨true, kind.code, kind.recovery, PipelineCallback.code⟩

/-- `audio::GStreamerStream`, which has the methods and the recovery of the video stream. -/
def audioProgram : StreamProgram where
  locking := false
  code := StreamKind.gstreamer.code
  recovery := StreamKind.gstreamer.recovery
  callback
    | .sample => Audio.onSample
    | .bus isFailure => Audio.onBusMessage isFailure

/-- One step. -/
def StreamProgram.perform (program : StreamProgram) (s : StreamSystem) :
    StreamAct → Option StreamSystem
  | .call thread call =>
    match s.calls.innermost thread with
    | some _ => none
    | none => (program.code call).map fun code => s.push thread (.starting false code)
  | .recover thread =>
    match s.calls.innermost thread with
    | some _ => none
    | none =>
      if s.shared.pending && !s.shared.closed && !s.shared.callbackRunning then
        some (({ s with shared := { s.shared with callbackRunning := true } } : StreamSystem).push
          thread (.starting false program.recovery))
      else none
  | .callback thread callback =>
    if s.shared.attached && ((s.calls.innermost thread).isNone || s.inForeign thread) then
      some (s.push thread (.starting true (program.callback callback)))
    else none
  | .advance thread choice => s.advance streamReady thread choice

/-- A stream, its pipeline and GStreamer as a machine. -/
def StreamProgram.machine (program : StreamProgram) : Machine StreamSystem StreamAct :=
  .driven .initial program.perform

/-- Some steps, one after another. -/
def StreamProgram.run (program : StreamProgram) (s : StreamSystem) (acts : List StreamAct) :
    Option StreamSystem :=
  acts.foldlM program.perform s

theorem StreamKind.machine_program (kind : StreamKind) :
    kind.program.machine = streamMachine kind := by
  have hperform : kind.program.perform = kind.perform := by
    funext s act
    cases act <;> rfl
  rw [StreamProgram.machine, hperform, streamMachine]

/-! ### The code keeps to the rules -/

section Plays

variable {locking : Bool} {r r' : StreamRole} {recovering : Bool} {known : Known}
  {next returned thrown : StreamCode}

theorem plays_read {g : StreamFields → Bool} {next : Bool → StreamCode}
    (h : ∀ found, (next found).Plays (streamRules locking) r) :
    (read g next).Plays (streamRules locking) r :=
  fun found => ⟨r, fun _ _ => .aside r ⟨rfl, rfl, rfl, rfl, rfl⟩, rfl, h found⟩

theorem plays_write {g : StreamFields → StreamFields}
    (haccess : ∀ shared, StreamAccess shared r (g shared) r')
    (h : next.Plays (streamRules locking) r') : (write g next).Plays (streamRules locking) r :=
  fun _ => ⟨r', fun shared _ => haccess shared,
    (streamRules locking).marks_access (haccess StreamSystem.initial.shared), h⟩

/-- The body of `stop`, by a call that holds the mutex. -/
theorem plays_stopBody (h : next.Plays (streamRules locking) (.working recovering true .quiet)) :
    (stopBody next).Plays (streamRules locking) (.working recovering true known) := by
  intro found
  cases found with
  | false =>
    refine ⟨.working recovering true .quiet, ?_, rfl, h⟩
    intro shared hinactive
    exact .work recovering (.inactive known hinactive)
  | true =>
    refine ⟨.working recovering true known, fun _ _ => .aside _ ⟨rfl, rfl, rfl, rfl, rfl⟩, rfl, ?_⟩
    refine plays_write (fun _ => .work recovering (.detach known)) ⟨rfl, fun _ => ?_⟩
    refine ⟨_, .streamingThreads recovering, ?_⟩
    refine plays_write (fun _ => .work recovering (.shutGate .quiet)) ⟨_, .callbacks recovering, ?_⟩
    exact plays_write (fun _ => .work recovering .deactivate) h

theorem plays_stopBody_closing (h : next.Plays (streamRules locking) (.closed true)) :
    (stopBody next).Plays (streamRules locking) (.closing false true known) := by
  intro found
  cases found with
  | false =>
    refine ⟨.closed true, ?_, rfl, h⟩
    intro shared hinactive
    exact .stopped (.inactive known hinactive) hinactive
  | true =>
    refine ⟨.closing false true known, fun _ _ => .aside _ ⟨rfl, rfl, rfl, rfl, rfl⟩, rfl, ?_⟩
    refine plays_write (fun _ => .close (.detach known)) ⟨rfl, fun _ => ?_⟩
    refine ⟨_, .closeStreamingThreads, ?_⟩
    refine plays_write (fun _ => .close (.shutGate .quiet)) ⟨_, .closeCallbacks, ?_⟩
    exact plays_write (fun _ => .stopped .deactivate rfl) h

theorem plays_stopPipeline
    (h : next.Plays (streamRules locking) (.working recovering false .quiet)) :
    (stopPipeline next).Plays (streamRules locking) (.working recovering false known) :=
  ⟨_, .working recovering known, plays_stopBody ⟨_, .working recovering .quiet, h⟩⟩

theorem plays_stopPipeline_closing (h : next.Plays (streamRules locking) (.closed false)) :
    (stopPipeline next).Plays (streamRules locking) (.closing false false known) :=
  ⟨_, .closing known, plays_stopBody_closing ⟨_, .closed, h⟩⟩

theorem plays_startPipeline
    (hreturned : returned.Plays (streamRules locking) (.working recovering false .nothing))
    (hthrown : thrown.Plays (streamRules locking) (.working recovering false .quiet)) :
    (startPipeline returned thrown).Plays (streamRules locking)
      (.working recovering false known) := by
  refine ⟨_, .working recovering known, plays_stopBody ?_⟩
  refine plays_write (fun _ => .work recovering .openGate) ?_
  intro built
  cases built with
  | false => exact ⟨_, .working recovering .quiet, hthrown⟩
  | true =>
    refine plays_write (fun _ => .activate recovering) ⟨rfl, ?_⟩
    intro playing
    cases playing with
    | true => exact ⟨_, .working recovering .nothing, hreturned⟩
    | false => exact plays_stopBody ⟨_, .working recovering .quiet, hthrown⟩

/-- A method that takes the mutex works on the pipeline only if the stream is open. -/
theorem plays_underLock {shutdown body : StreamCode}
    (hshutdown : shutdown.Plays (streamRules locking) (.caller recovering))
    (hbody : body.Plays (streamRules locking) (.working recovering false .nothing)) :
    (underLock shutdown body).Plays (streamRules locking) (.caller recovering) := by
  refine ⟨_, .caller recovering, ?_⟩
  intro found
  cases found with
  | false => exact ⟨_, fun _ hopen => .isOpen recovering hopen, rfl, hbody⟩
  | true =>
    exact ⟨_, fun _ _ => .aside _ ⟨rfl, rfl, rfl, rfl, rfl⟩, rfl, _, .holder recovering, hshutdown⟩

theorem plays_finishRecovery : finishRecovery.Plays (streamRules locking) (.caller true) :=
  plays_write (fun _ => .finish) .caller

theorem plays_unlock_ret :
    (Code.unlock .ret : StreamCode).Plays (streamRules locking) (.working false false known) :=
  ⟨_, .working false known, .caller⟩

theorem plays_unlock_finishRecovery :
    (Code.unlock finishRecovery).Plays (streamRules locking) (.working true false known) :=
  ⟨_, .working true known, plays_finishRecovery⟩

theorem plays_closeStream : closeStream.Plays (streamRules locking) (.caller false) := by
  refine plays_underLock .caller (plays_write (fun _ => .shutDown .nothing) ?_)
  refine ⟨_, .closing .nothing, fun found => ?_⟩
  refine ⟨_, fun _ _ => .aside _ ⟨rfl, rfl, rfl, rfl, rfl⟩, rfl, ?_⟩
  have hstop : (stopPipeline .ret).Plays (streamRules locking) (.closing false false .nothing) :=
    plays_stopPipeline_closing .closed
  cases found with
  | true => exact hstop
  | false => exact ⟨_, .worker .nothing, hstop⟩

/-- Forgetting the layout and the codec touches no field that a role depends on. -/
theorem plays_write_aside {g : StreamFields → StreamFields}
    (hg : ∀ shared, Untouched shared (g shared))
    (h : next.Plays (streamRules locking) r) : (write g next).Plays (streamRules locking) r :=
  plays_write (fun shared => .aside r (hg shared)) h

theorem untouched_resetPipelineState (shared : StreamFields) :
    Untouched shared (resetPipelineState shared) := ⟨rfl, rfl, rfl, rfl, rfl⟩

theorem plays_dropPipeline :
    dropPipeline.Plays (streamRules locking) (.working false false known) :=
  plays_write_aside untouched_resetPipelineState (plays_stopPipeline plays_unlock_ret)

theorem plays_pushBuffer : pushBuffer.Plays (streamRules locking) (.working false false known) := by
  intro taken
  cases taken with
  | true => exact plays_unlock_ret
  | false => exact plays_dropPipeline

theorem plays_onImage {isCurrent : StreamFields → Bool} {remember : StreamFields → StreamFields}
    (hremember : ∀ shared, Untouched shared (remember shared)) :
    (onImage isCurrent remember).Plays (streamRules locking) (.working false false known) := by
  refine plays_read fun found => ?_
  cases found with
  | true => exact plays_pushBuffer
  | false =>
    exact plays_write_aside untouched_resetPipelineState (plays_stopPipeline (plays_startPipeline
      (plays_write_aside hremember plays_pushBuffer) plays_dropPipeline))

theorem StreamKind.plays_code {kind : StreamKind} {call : StreamCall} {code : StreamCode}
    (h : kind.code call = some code) : code.Plays (streamRules locking) (.caller false) := by
  have hclose : ∀ {code}, closeStream = code →
      code.Plays (streamRules locking) (.caller false) := by
    rintro _ rfl
    exact plays_closeStream
  cases kind with
  | gstreamer =>
    cases call with
    | start =>
      obtain rfl := Option.some.inj h
      exact plays_underLock .caller (plays_startPipeline plays_unlock_ret plays_unlock_ret)
    | close => exact hclose (Option.some.inj h)
    | rawImage => cases h
    | compressedImage => cases h
  | ros =>
    cases call with
    | start => cases h
    | close => exact hclose (Option.some.inj h)
    | rawImage image =>
      obtain rfl := Option.some.inj h
      refine plays_underLock .caller ?_
      cases image with
      | none => exact plays_dropPipeline
      | some layout => exact plays_onImage fun _ => ⟨rfl, rfl, rfl, rfl, rfl⟩
    | compressedImage image =>
      obtain rfl := Option.some.inj h
      refine plays_underLock .caller ?_
      cases image with
      | none => exact plays_dropPipeline
      | some codec => exact plays_onImage fun _ => ⟨rfl, rfl, rfl, rfl, rfl⟩

theorem StreamKind.plays_recovery (kind : StreamKind) :
    kind.recovery.Plays (streamRules locking) (.caller true) := by
  cases kind with
  | gstreamer =>
    exact plays_underLock plays_finishRecovery (plays_stopPipeline
      (plays_startPipeline plays_unlock_finishRecovery plays_unlock_finishRecovery))
  | ros =>
    exact plays_underLock plays_finishRecovery (plays_write_aside untouched_resetPipelineState
      (plays_stopPipeline plays_unlock_finishRecovery))

/-! ### The callbacks -/

theorem plays_leaveCallback :
    leaveCallback.Plays (streamRules locking) (.callback true false) :=
  plays_write (fun _ => .ends) .callback

/-- A callback is counted if the gate is open. -/
theorem plays_beginCallback {next : Bool → StreamCode}
    (hshut : (next false).Plays (streamRules locking) (.callback false false))
    (hopen : (next true).Plays (streamRules locking) (.callback true false)) :
    (Code.access beginCallback next).Plays (streamRules locking) (.callback false false) := by
  intro found
  cases found with
  | false =>
    refine ⟨_, fun shared hfound => ?_, rfl, hshut⟩
    rw [beginCallback] at hfound ⊢
    split_ifs at hfound ⊢
    exact .aside _ ⟨rfl, rfl, rfl, rfl, rfl⟩
  | true =>
    refine ⟨.callback true false, fun shared hfound => ?_, rfl, hopen⟩
    rw [beginCallback] at hfound ⊢
    split_ifs at hfound ⊢
    exact .begins

theorem untouched_schedule (shared : StreamFields) : Untouched shared (schedule shared).2 := by
  rw [schedule]
  split <;> exact ⟨rfl, rfl, rfl, rfl, rfl⟩

theorem plays_schedule (h : next.Plays (streamRules locking) r) :
    (Code.access schedule fun _ => next).Plays (streamRules locking) r :=
  fun _ => ⟨r, fun shared _ => .aside r (untouched_schedule shared), rfl, h⟩

/-- A callback of a video stream takes the mutex for one access and releases it. -/
theorem plays_lock_callback {begun : Bool}
    (h : next.Plays (streamRules true) (.callback begun true)) :
    (Code.lock next).Plays (streamRules true) (.callback begun false) :=
  ⟨_, .callback begun rfl, h⟩

theorem plays_unlock_callback {begun : Bool}
    (h : next.Plays (streamRules locking) (.callback begun false)) :
    (Code.unlock next).Plays (streamRules locking) (.callback begun true) :=
  ⟨_, .callback begun, h⟩

theorem PipelineCallback.plays_code (callback : PipelineCallback) :
    callback.code.Plays (streamRules true) (.callback false false) := by
  have hleave : leaveCallback.Plays (streamRules true) (.callback true false) := plays_leaveCallback
  cases callback with
  | sample =>
    refine plays_beginCallback .callback fun unpacked => ?_
    cases unpacked with
    | false => exact hleave
    | true =>
      refine plays_lock_callback (plays_read fun shutdown => plays_unlock_callback ?_)
      cases shutdown with
      | true => exact hleave
      | false => exact fun _ => hleave
  | bus isFailure =>
    refine plays_beginCallback .callback ?_
    cases isFailure with
    | false => exact hleave
    | true =>
      refine plays_lock_callback (plays_read fun found => ?_)
      cases found with
      | true => exact plays_unlock_callback hleave
      | false => exact plays_schedule (plays_unlock_callback hleave)

theorem audioProgram.plays_callback (callback : PipelineCallback) :
    (audioProgram.callback callback).Plays (streamRules false) (.callback false false) := by
  have hleave : leaveCallback.Plays (streamRules false) (.callback true false) := plays_leaveCallback
  cases callback with
  | sample =>
    refine plays_beginCallback .callback fun unpacked => ?_
    cases unpacked with
    | false => exact hleave
    | true =>
      refine plays_read fun shutdown => ?_
      cases shutdown with
      | true => exact hleave
      | false => exact fun _ => hleave
  | bus isFailure =>
    refine plays_beginCallback .callback ?_
    cases isFailure with
    | false => exact hleave
    | true =>
      refine plays_read fun shutdown => ?_
      cases shutdown with
      | true => exact hleave
      | false => exact plays_schedule hleave

end Plays

/-- All code of the program keeps to the rules. -/
structure StreamProgram.Keeps (program : StreamProgram) : Prop where
  code : ∀ {call code}, program.code call = some code →
    code.Plays (streamRules program.locking) (.caller false)
  recovery : program.recovery.Plays (streamRules program.locking) (.caller true)
  callback : ∀ callback,
    (program.callback callback).Plays (streamRules program.locking) (.callback false false)

theorem StreamKind.keeps (kind : StreamKind) : kind.program.Keeps :=
  ⟨StreamKind.plays_code, kind.plays_recovery, PipelineCallback.plays_code⟩

theorem audioProgram.keeps : audioProgram.Keeps :=
  ⟨StreamKind.plays_code, StreamKind.gstreamer.plays_recovery, audioProgram.plays_callback⟩

end Video

end LivekitBridge
