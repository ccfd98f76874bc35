import LivekitBridge.Video.RosStream

/-!
# What a ROS video topic pushes

The results about `Video.RosStream`.  `RosBooks` says what a run keeps: the pipeline that runs is
the one for the layout or the codec that the stream remembers, every buffer went into a pipeline
that was started for frames like its own, and a failure that the handler took is still to be
handled.  A section is followed piece by piece: logging, dropping the pipeline, starting one and
pushing into it each keep the books, and a frame is handled by these (`Handled`).
-/

namespace LivekitBridge

open Lib

namespace Video

/-- The event starts a pipeline. -/
def RosStreamEvent.starts : RosStreamEvent → Option Str
  | .started description => some description
  | _ => none

/-- The pipeline that was started last was not stopped since. -/
def Running (tr : List RosStreamEvent) (description : Str) : Prop :=
  Standing RosStreamEvent.starts (fun _ e => e = .stopped) tr description

/-- The handler takes a failure. -/
def RosStreamEvent.takes : RosStreamEvent → Option Unit
  | .handler (.scheduled true) => some ()
  | _ => none

/-- The handler took a failure, and since then neither was a pipeline stopped nor the stream
closed. -/
def FailureOwed (tr : List RosStreamEvent) : Prop :=
  Standing RosStreamEvent.takes (fun _ e => e = .stopped ∨ e = .shutdown) tr ()

/-- The bytes and the stamp of a frame. -/
def Frame.payload : Frame → List UInt8 × Stamp
  | .raw image => (image.data, image.stamp)
  | .compressed image => (image.data, image.stamp)

/-- The geometry of a raw frame. -/
def Frame.videoMeta : Frame → Option VideoMeta
  | .raw image =>
    some
      { format := formatFromRosEncoding image.encoding
        width := image.width
        height := image.height
        offset := 0
        stride := image.step.toInt32.toInt }
  | .compressed _ => none

/-- The buffer has the frame's bytes, its time and its geometry. -/
def Frame.CarriedBy (input : RosSetup) (frame : Frame) (buffer : AppsrcBuffer) : Prop :=
  buffer.data = frame.payload.1 ∧ input.nanoseconds frame.payload.2 = .ok buffer.pts ∧
    buffer.dts = buffer.pts ∧ buffer.videoMeta = frame.videoMeta

/-- What was pushed was carried over from a frame, into the pipeline for frames like it. -/
def PushesMatch (input : RosSetup) (tr : List RosStreamEvent) : Prop :=
  ∀ pre frame buffer accepted post, tr = pre ++ .pushed frame buffer accepted :: post →
    ∃ description, frame.description input = some description ∧ Running pre description ∧
      frame.CarriedBy input buffer

/-- The pipeline for what the stream remembers. -/
def RosStream.expected (input : RosSetup) (s : RosStream) : Option Str :=
  match s.rawLayout, s.codec with
  | some layout, none => some (RosStream.rawDescription input layout)
  | none, some codec => some (RosStream.compressedDescription input codec)
  | _, _ => none

/-- What a run keeps. -/
structure RosBooks (input : RosSetup) (tr : List RosStreamEvent) (s : RosStream) : Prop where
  configured : s.closing ≠ some .finished →
    s.pipeline = s.expected input ∧ (s.rawLayout = none ∨ s.codec = none)
  finished : s.closing = some .finished → s.pipeline = none
  running : ∀ description, Running tr description ↔ s.pipeline = some description
  pushes : PushesMatch input tr
  owed : FailureOwed tr → s.isShutdown = false ∧ s.pipeline.isSome = true ∧
    (s.recovering = true ∨ s.handler.callbackRunning = false ∧ s.handler.pending = true)
  shut : s.isShutdown = true ↔ s.closing ≠ none
  subscriptions : s.isShutdown = true → s.rawSubscription = false ∧ s.compressedSubscription = false
  recovering : s.recovering = true → s.handler.callbackRunning = true
  handlerOpen : s.closing = none ∨ s.closing = some .handler → s.handler.closed = false
  handlerClosed : s.closing = some .pipeline ∨ s.closing = some .finished →
    s.handler.closed = true ∧ s.handler.joining = []
  shutdownSeen : .shutdown ∈ tr → s.isShutdown = true

/-! ### Sections -/

section Sections

variable {input : RosSetup} {tr evs : List RosStreamEvent} {x : Section} {s : RosStream}

/-- The event neither starts nor stops a pipeline, pushes nothing, and has no part in a failure
that is owed. -/
def RosStreamEvent.isQuiet : RosStreamEvent → Bool
  | .started _ => false
  | .stopped => false
  | .pushed _ _ _ => false
  | .handler (.scheduled true) => false
  | .shutdown => false
  | _ => true

theorem starts_of_isQuiet {e : RosStreamEvent} (h : e.isQuiet = true) :
    e.starts = none ∧ ¬ e = .stopped := by
  cases e <;> simp_all [RosStreamEvent.isQuiet, RosStreamEvent.starts]

theorem takes_of_isQuiet {e : RosStreamEvent} (h : e.isQuiet = true) :
    e.takes = none ∧ ¬ (e = .stopped ∨ e = .shutdown) := by
  cases e with
  | handler event =>
    cases event with
    | scheduled result => cases result <;> simp_all [RosStreamEvent.isQuiet, RosStreamEvent.takes]
    | _ => simp [RosStreamEvent.takes]
  | _ => simp_all [RosStreamEvent.isQuiet, RosStreamEvent.takes]

theorem running_append_of_quiet (h : ∀ e ∈ evs, e.isQuiet = true) (description : Str) :
    Running (tr ++ evs) description ↔ Running tr description :=
  standing_append_of_quiet fun e he => starts_of_isQuiet (h e he)

theorem failureOwed_append_of_quiet (h : ∀ e ∈ evs, e.isQuiet = true) :
    FailureOwed (tr ++ evs) ↔ FailureOwed tr :=
  standing_append_of_quiet fun e he => takes_of_isQuiet (h e he)

theorem running_started (description other : Str) :
    Running (tr ++ [.started description]) other ↔ other = description :=
  standing_concat_of_set rfl

theorem not_running_stopped (description : Str) : ¬ Running (tr ++ [.stopped]) description := by
  rw [Running, standing_concat_of_not_set rfl]
  exact fun h => h.2 rfl

theorem not_failureOwed_stopped : ¬ FailureOwed (tr ++ [.stopped]) := by
  rw [FailureOwed, standing_concat_of_not_set rfl]
  exact fun h => h.2 (.inl rfl)

theorem pushesMatch_append (h : PushesMatch input tr)
    (hevs : ∀ frame buffer accepted, .pushed frame buffer accepted ∉ evs) :
    PushesMatch input (tr ++ evs) := by
  intro pre frame buffer accepted post heq
  rcases List.append_eq_append_iff.mp heq with ⟨mid, -, hmid⟩ | ⟨mid, htr, hmid⟩
  · exact absurd (hmid ▸ List.mem_append_right mid List.mem_cons_self) (hevs frame buffer accepted)
  · cases mid with
    | nil =>
      rw [List.nil_append] at hmid
      exact absurd (hmid ▸ List.mem_cons_self) (hevs frame buffer accepted)
    | cons e mid =>
      obtain ⟨rfl, -⟩ : .pushed frame buffer accepted = e ∧ post = mid ++ evs := by
        simpa using hmid
      exact h pre frame buffer accepted mid htr

theorem pushesMatch_concat (h : PushesMatch input tr) {frame : Frame} {buffer : AppsrcBuffer}
    {description : Str} (hdescription : frame.description input = some description)
    (hrunning : Running tr description) (hcarried : frame.CarriedBy input buffer) (accepted : Bool) :
    PushesMatch input (tr ++ [.pushed frame buffer accepted]) := by
  intro pre frame' buffer' accepted' post heq
  rcases List.append_eq_append_iff.mp heq with ⟨mid, hpre, hmid⟩ | ⟨mid, htr, hmid⟩
  · cases mid with
    | nil =>
      obtain ⟨⟨rfl, rfl, -⟩, -⟩ : (frame = frame' ∧ buffer = buffer' ∧ accepted = accepted') ∧
          post = [] := by simpa [eq_comm] using hmid
      rw [List.append_nil] at hpre
      rw [hpre]
      exact ⟨description, hdescription, hrunning, hcarried⟩
    | cons e mid => simp at hmid
  · cases mid with
    | nil =>
      obtain ⟨⟨rfl, rfl, -⟩, -⟩ : (frame' = frame ∧ buffer' = buffer ∧ accepted' = accepted) ∧
          post = [] := by simpa using hmid
      rw [List.append_nil] at htr
      rw [← htr]
      exact ⟨description, hdescription, hrunning, hcarried⟩
    | cons e mid =>
      obtain ⟨rfl, -⟩ : .pushed frame' buffer' accepted' = e ∧
          post = mid ++ [.pushed frame buffer accepted] := by simpa using hmid
      exact h pre frame' buffer' accepted' mid htr

/-- The books, inside a section. -/
def Kept (input : RosSetup) (tr : List RosStreamEvent) (x : Section) : Prop :=
  RosBooks input (tr ++ x.events) x.stream

theorem RosBooks.seen_append (h : RosBooks input tr s) (hevs : .shutdown ∉ evs) :
    .shutdown ∈ tr ++ evs → s.isShutdown = true := by
  intro hmem
  rcases List.mem_append.mp hmem with hold | hnew
  · exact h.shutdownSeen hold
  · exact absurd hnew hevs

/-- Quiet events leave the books alone. -/
theorem RosBooks.quiet (h : RosBooks input tr s) (hevs : ∀ e ∈ evs, e.isQuiet = true) :
    RosBooks input (tr ++ evs) s := by
  refine ⟨h.configured, h.finished, ?_, ?_, ?_, h.shut, h.subscriptions, h.recovering,
    h.handlerOpen, h.handlerClosed, h.seen_append fun hmem => by cases hevs _ hmem⟩
  · intro description
    rw [running_append_of_quiet hevs]
    exact h.running description
  · refine pushesMatch_append h.pushes ?_
    intro frame buffer accepted hmem
    cases hevs _ hmem
  · rw [failureOwed_append_of_quiet hevs]
    exact h.owed

theorem RosBooks.begin (h : RosBooks input tr s) : Kept input tr ⟨s, []⟩ := by
  rw [Kept, List.append_nil]
  exact h

theorem isQuiet_of_isLog {e : RosStreamEvent} (h : e.isLog = true) : e.isQuiet = true := by
  cases e with
  | appsrcPushFailed what => rfl
  | layoutChanged previous layout => rfl
  | codecChanged previous codec => rfl
  | recoveryDisabled reason => rfl
  | _ => cases h

theorem RosBooks.logged (h : RosBooks input tr s) {logged : List RosStreamEvent}
    (hlogged : ∀ e ∈ logged, e.isLog = true) : Kept input tr ⟨s, logged⟩ :=
  h.quiet fun e he => isQuiet_of_isLog (hlogged e he)

theorem Kept.emit (h : Kept input tr x) {e : RosStreamEvent} (he : e.isQuiet = true) :
    Kept input tr (x.emit e) := by
  rw [Kept, Section.emit, ← List.append_assoc]
  exact RosBooks.quiet h (by simpa using he)

/-- Nothing is left, and nothing is pending. -/
theorem stream_drop (x : Section) :
    x.drop.stream =
      { x.stream with
        rawLayout := none, codec := none, pipeline := none
        handler := x.stream.handler.cancelPending } := by
  unfold Section.drop Section.stop
  split
  · rename_i hnone
    have hpipeline : x.stream.pipeline = none := hnone
    simp only [Section.resetPipelineState]
    rw [hpipeline]
  · rfl

theorem events_drop (x : Section) :
    x.drop.events =
      x.events ++ .handler .cancelled :: if x.stream.pipeline.isSome then [.stopped] else [] := by
  unfold Section.drop Section.stop
  split
  · rename_i hnone
    have hpipeline : x.stream.pipeline = none := hnone
    simp [Section.resetPipelineState, hpipeline]
  · rename_i hsome
    have hpipeline : x.stream.pipeline = some _ := hsome
    simp [Section.resetPipelineState, hpipeline]

/-- The books of a stream whose pipeline was dropped. -/
theorem Kept.drop (h : Kept input tr x) : Kept input tr x.drop := by
  have hstate : ∀ description, Running (tr ++ x.drop.events) description ↔ False := by
    intro description
    rw [events_drop]
    cases hpipeline : x.stream.pipeline with
    | none =>
      rw [← List.append_assoc]
      refine (running_append_of_quiet (by simp [RosStreamEvent.isQuiet]) description).trans ?_
      rw [h.running, hpipeline]
      simp
    | some other =>
      simp only [Option.isSome_some, if_true, iff_false]
      rw [show tr ++ (x.events ++ [.handler .cancelled, .stopped]) =
        (tr ++ x.events ++ [.handler .cancelled]) ++ [.stopped] by simp]
      exact not_running_stopped description
  have hnone : ¬ FailureOwed (tr ++ x.drop.events) := by
    rw [events_drop]
    cases hpipeline : x.stream.pipeline with
    | none =>
      rw [← List.append_assoc]
      intro howed
      have hactive := (h.owed
        ((failureOwed_append_of_quiet (by simp [RosStreamEvent.isQuiet])).mp howed)).2.1
      rw [hpipeline] at hactive
      cases hactive
    | some other =>
      simp only [Option.isSome_some, if_true]
      rw [show tr ++ (x.events ++ [.handler .cancelled, .stopped]) =
        (tr ++ x.events ++ [.handler .cancelled]) ++ [.stopped] by simp]
      exact not_failureOwed_stopped
  have hpushes : PushesMatch input (tr ++ x.drop.events) := by
    rw [events_drop, ← List.append_assoc]
    refine pushesMatch_append h.pushes ?_
    intro frame buffer accepted hmem
    split at hmem
    · simp at hmem
    · simp at hmem
  have hseen : .shutdown ∈ tr ++ x.drop.events → x.stream.isShutdown = true := by
    rw [events_drop, ← List.append_assoc]
    refine h.seen_append ?_
    split
    · simp
    · simp
  rw [Kept, stream_drop]
  refine ⟨fun _ => ⟨rfl, .inl rfl⟩, fun _ => rfl, ?_, hpushes, fun howed => absurd howed hnone,
    h.shut, h.subscriptions, h.recovering, h.handlerOpen, h.handlerClosed, hseen⟩
  intro description
  rw [hstate]
  simp

theorem Kept.fail (h : Kept input tr x) (what : Str) : Kept input tr (x.fail what) :=
  (h.emit rfl).drop

theorem carriedBy_of_buffer {frame : Frame} {answers : Answers} {buffer : AppsrcBuffer}
    (h : frame.buffer input answers = .ok buffer) : frame.CarriedBy input buffer := by
  have hmade : ∀ data stamp made, makeStampedBuffer input data stamp answers = .ok made →
      made.data = data ∧ input.nanoseconds stamp = .ok made.pts ∧ made.dts = made.pts ∧
        made.videoMeta = none := by
    intro data stamp made hmake
    unfold makeStampedBuffer at hmake
    split at hmake
    · cases hmake
    · split at hmake
      · cases hmake
      · cases hns : input.nanoseconds stamp with
        | error what =>
          rw [hns] at hmake
          cases hmake
        | ok pts =>
          rw [hns] at hmake
          cases hmake
          exact ⟨rfl, rfl, rfl, rfl⟩
  cases frame with
  | raw image =>
    cases hmake : makeStampedBuffer input image.data image.stamp answers with
    | error what =>
      rw [Frame.buffer, hmake] at h
      cases h
    | ok made =>
      rw [Frame.buffer, hmake] at h
      cases h
      obtain ⟨hdata, hpts, hdts, -⟩ := hmade _ _ _ hmake
      exact ⟨hdata, hpts, hdts, rfl⟩
  | compressed image => exact hmade _ _ _ h

theorem Kept.push (h : Kept input tr x) {frame : Frame} {description : Str} {answers : Answers}
    (hdescription : frame.description input = some description)
    (hrunning : x.stream.pipeline = some description) (refusal : Str) :
    Kept input tr (x.push frame (frame.buffer input answers) refusal answers) := by
  have hpushed : ∀ buffer accepted, frame.buffer input answers = .ok buffer →
      Kept input tr (x.emit (.pushed frame buffer accepted)) := by
    intro buffer accepted hbuffer
    rw [Kept, Section.emit, ← List.append_assoc]
    have hnothing : RosStreamEvent.starts (.pushed frame buffer accepted) = none := rfl
    have hnotTaken : RosStreamEvent.takes (.pushed frame buffer accepted) = none := rfl
    refine ⟨h.configured, h.finished, ?_, ?_, ?_, h.shut, h.subscriptions, h.recovering,
      h.handlerOpen, h.handlerClosed, h.seen_append (by simp)⟩
    · intro other
      rw [Running, standing_concat_of_not_set hnothing]
      exact ⟨fun hold => (h.running other).mp hold.1,
        fun hsame => ⟨(h.running other).mpr hsame, RosStreamEvent.noConfusion⟩⟩
    · exact pushesMatch_concat h.pushes hdescription ((h.running description).mpr hrunning)
        (carriedBy_of_buffer hbuffer) accepted
    · rw [FailureOwed, standing_concat_of_not_set hnotTaken]
      exact fun howed => h.owed howed.1
  unfold Section.push
  split
  · exact h.fail _
  · rename_i buffer hbuffer
    split
    · exact hpushed buffer true hbuffer
    · exact (hpushed buffer false hbuffer).fail refusal

/-- Nothing is owed for a pipeline that runs where none did. -/
theorem Kept.start (h : Kept input tr x) (hopen : x.stream.isShutdown = false) {frame : Frame}
    {description : Str} (hdescription : frame.description input = some description) :
    Kept input tr
      { stream := frame.remember { x.drop.stream with pipeline := some description }
        events := x.drop.events ++ [.started description] } := by
  have hdropped := h.drop
  have hstream := stream_drop x
  have hexpected : ∀ s : RosStream, s.rawLayout = none → s.codec = none →
      (frame.remember s).expected input = some description ∧
        ((frame.remember s).rawLayout = none ∨ (frame.remember s).codec = none) := by
    intro s hraw hcodec
    cases frame with
    | raw image =>
      rw [Frame.description] at hdescription
      split at hdescription
      · cases hdescription
      · obtain rfl := Option.some.inj hdescription
        exact ⟨by simp [Frame.remember, RosStream.expected, hcodec], .inr hcodec⟩
    | compressed image =>
      obtain ⟨codec, hparse, rfl⟩ := Option.map_eq_some_iff.mp hdescription
      exact ⟨by simp [Frame.remember, RosStream.expected, hraw, hparse], .inl hraw⟩
  have hsame : ∀ s : RosStream, (frame.remember s).pipeline = s.pipeline ∧
      (frame.remember s).isShutdown = s.isShutdown ∧ (frame.remember s).closing = s.closing ∧
      (frame.remember s).handler = s.handler ∧ (frame.remember s).recovering = s.recovering ∧
      (frame.remember s).rawSubscription = s.rawSubscription ∧
      (frame.remember s).compressedSubscription = s.compressedSubscription := by
    intro s
    cases frame with
    | raw image => exact ⟨rfl, rfl, rfl, rfl, rfl, rfl, rfl⟩
    | compressed image => exact ⟨rfl, rfl, rfl, rfl, rfl, rfl, rfl⟩
  obtain ⟨hpipeline, hshut, hclosing, hhandler, hrecovering, hrawSub, hcompressedSub⟩ :=
    hsame { x.drop.stream with pipeline := some description }
  have hnothing : RosStreamEvent.takes (.started description) = none := rfl
  have hnone : x.drop.stream.closing = none := by
    have hnot : ¬ x.stream.closing ≠ none := by
      rw [← h.shut, hopen]
      exact Bool.false_ne_true
    rw [hstream]
    exact not_not.mp hnot
  rw [Kept, ← List.append_assoc]
  refine ⟨?_, ?_, ?_, ?_, ?_, ?_, ?_, ?_, ?_, ?_, ?_⟩
  · intro _
    rw [hpipeline]
    obtain ⟨hexp, hone⟩ := hexpected { x.drop.stream with pipeline := some description }
      (by rw [hstream]) (by rw [hstream])
    exact ⟨hexp.symm, hone⟩
  · intro hfinished
    rw [hclosing, hnone] at hfinished
    cases hfinished
  · intro other
    rw [running_started, hpipeline, Option.some.injEq, eq_comm]
  · exact pushesMatch_append hdropped.pushes (by simp)
  · rw [FailureOwed, standing_concat_of_not_set hnothing]
    intro howed
    have hactive := (hdropped.owed howed.1).2.1
    rw [hstream] at hactive
    cases hactive
  · rw [hshut, hclosing]
    exact hdropped.shut
  · rw [hshut, hrawSub, hcompressedSub]
    exact hdropped.subscriptions
  · rw [hrecovering, hhandler]
    exact hdropped.recovering
  · rw [hclosing, hhandler]
    exact hdropped.handlerOpen
  · rw [hclosing, hhandler]
    exact hdropped.handlerClosed
  · rw [hshut]
    exact hdropped.seen_append (by simp)

theorem RosBooks.handled (h : RosBooks input tr s) {frame : Frame} {answers : Answers}
    (hx : Handled input s frame answers x) : Kept input tr x := by
  cases hx with
  | ignored _ => exact h.begin
  | unsupported what _ _ => exact h.begin.fail what
  | @pushed description refusal hopen hdescription hremembered hactive =>
    refine h.begin.push hdescription ?_ refusal
    have hnot : s.closing ≠ some .finished := by
      intro hfinished
      rw [h.finished hfinished] at hactive
      cases hactive
    obtain ⟨hexpected, hone⟩ := h.configured hnot
    rw [hexpected]
    -- what is remembered is for this frame, and nothing else is
    cases frame with
    | raw image =>
      rw [Frame.Remembered] at hremembered
      rw [Frame.description] at hdescription
      split at hdescription
      · cases hdescription
      · obtain rfl := Option.some.inj hdescription
        rcases hone with hnone | hnone
        · rw [hremembered] at hnone
          cases hnone
        · simp [RosStream.expected, hremembered, hnone]
    | compressed image =>
      obtain ⟨codec, hparse, rfl⟩ := Option.map_eq_some_iff.mp hdescription
      rw [Frame.Remembered, hparse] at hremembered
      rcases hone with hnone | hnone
      · simp [RosStream.expected, hremembered, hnone]
      · rw [hremembered] at hnone
        cases hnone
  | notStarted logged what _ _ _ hlogged _ => exact (h.logged hlogged).drop.fail what
  | restarted logged refusal hopen hdescription _ hlogged _ =>
    refine Kept.push ((h.logged hlogged).start hopen hdescription) hdescription ?_ refusal
    cases frame with
    | raw image => rfl
    | compressed image => rfl

end Sections

/-! ### Steps -/

section Steps

variable {input : RosSetup} {tr evs : List RosStreamEvent} {s t : RosStream}

theorem RosBooks.initial (input : RosSetup) : RosBooks input [] .initial := by
  refine ⟨fun _ => ⟨rfl, .inl rfl⟩, fun _ => rfl, ?_, ?_, ?_, by simp [RosStream.initial],
    fun _ => ⟨rfl, rfl⟩, by simp [RosStream.initial], fun _ => rfl, by simp [RosStream.initial],
    by simp⟩
  · intro description
    exact ⟨fun h => absurd h (not_standing_nil _), fun h => by cases h⟩
  · intro pre frame buffer accepted post heq
    simp at heq
  · exact fun h => absurd h (not_standing_nil _)

theorem RosBooks.start (h : RosBooks input tr s) {x : Section} {subscribes : Except Str Unit}
    (hx : s.start input subscribes = .ok x) : Kept input tr x := by
  unfold RosStream.start at hx
  split at hx
  · cases hx
  · rename_i hopen
    split at hx
    · cases hx
      exact h.begin
    · cases subscribes with
      | error what => cases hx
      | ok _ =>
        cases hx
        have hquiet : RosBooks input (tr ++ [.subscribed input.ingestMode]) s :=
          h.quiet (by simp [RosStreamEvent.isQuiet])
        have hsubscribed : ∀ raw compressed, RosBooks input (tr ++ [.subscribed input.ingestMode])
            { s with rawSubscription := raw, compressedSubscription := compressed } :=
          fun raw compressed => ⟨hquiet.configured, hquiet.finished, hquiet.running, hquiet.pushes,
            hquiet.owed, hquiet.shut, fun hshut => absurd hshut hopen, hquiet.recovering,
            hquiet.handlerOpen, hquiet.handlerClosed, hquiet.shutdownSeen⟩
        split
        · rename_i hmode
          rw [hmode] at hsubscribed
          exact hsubscribed true s.compressedSubscription
        · rename_i hmode
          rw [hmode] at hsubscribed
          exact hsubscribed s.rawSubscription true

theorem schedule_eq (f : FailureHandler) :
    (f.schedule.2 = false ∧ f.schedule.1 = f) ∨
    (f.schedule.2 = true ∧ f.closed = false ∧ f.callbackRunning = false ∧
      f.schedule.1.pending = true ∧ f.schedule.1.callbackRunning = false ∧
      f.schedule.1.closed = false ∧ f.schedule.1.joining = f.joining) := by
  unfold FailureHandler.schedule
  split
  · exact .inl ⟨rfl, rfl⟩
  · rename_i hbusy
    simp only [Bool.or_eq_true, not_or, Bool.not_eq_true] at hbusy
    exact .inr ⟨rfl, hbusy.1.1, hbusy.2, rfl, hbusy.2, hbusy.1.1, rfl⟩

theorem RosBooks.failed (h : RosBooks input tr s) (reason : Str) :
    Kept input tr (s.onPipelineFailure reason) := by
  unfold RosStream.onPipelineFailure
  split
  · exact h.begin
  · rename_i hgo
    simp only [Bool.or_eq_true, not_or, Bool.not_eq_true, Option.isNone_eq_false_iff] at hgo
    obtain ⟨hopen, hactive⟩ := hgo
    rcases schedule_eq s.handler with ⟨hresult, hsame⟩ | ⟨hresult, -, hidle, hpending, hrunning,
        hclosed, hjoining⟩
    · rw [hresult, hsame]
      exact h.quiet (by simp [RosStreamEvent.isQuiet])
    · rw [hresult]
      have hstarts : ∀ description, Running (tr ++ [.handler (.scheduled true), .recoveryDisabled reason])
          description ↔ Running tr description := by
        intro description
        refine standing_append_of_quiet ?_
        simp [RosStreamEvent.starts]
      refine ⟨h.configured, h.finished, ?_, ?_, ?_, h.shut, h.subscriptions, ?_, ?_, ?_,
        h.seen_append (by simp)⟩
      · intro description
        exact (hstarts description).trans (h.running description)
      · exact pushesMatch_append h.pushes (by simp)
      · exact fun _ => ⟨hopen, hactive, .inr ⟨hrunning, hpending⟩⟩
      · intro hrecovering
        rw [h.recovering hrecovering] at hidle
        cases hidle
      · exact fun _ => hclosed
      · intro hclosing
        have hnone : s.closing = none := by
          have hnot : ¬ s.closing ≠ none := by
            rw [← h.shut, hopen]
            exact Bool.false_ne_true
          exact not_not.mp hnot
        have hclosing' : s.closing = some .pipeline ∨ s.closing = some .finished := hclosing
        rw [hnone] at hclosing'
        simp at hclosing'

theorem RosBooks.run (h : RosBooks input tr s) (hshaped : Shaped s.handler) {f : FailureHandler}
    {hevs : List FailureEvent} {i : Nat} {timedOut : Bool} (hidle : s.recovering = false)
    (hrun : s.handler.run i timedOut = some (f, hevs)) :
    RosBooks input (tr ++ hevs.map .handler)
      { s with handler := f, recovering := hevs.contains .started } := by
  have hran := ran_of_run hrun
  have hquiet : ∀ e ∈ hevs.map RosStreamEvent.handler, e.isQuiet = true := by
    intro e he
    obtain ⟨event, hevent, rfl⟩ := List.mem_map.mp he
    cases hran with
    | calls _ _ _ _ =>
      rw [List.mem_singleton.mp hevent]
      rfl
    | finishes _ =>
      rw [List.mem_singleton.mp hevent]
      rfl
    | _ => cases hevent
  have hjoining : f.joining = s.handler.joining := by
    cases hran <;> rfl
  have hbooks := h.quiet hquiet
  refine ⟨hbooks.configured, hbooks.finished, hbooks.running, hbooks.pushes, ?_, hbooks.shut,
    hbooks.subscriptions, ?_, ?_, ?_, hbooks.shutdownSeen⟩
  · intro howed
    obtain ⟨hopen, hactive, hrecovering | ⟨hrunning, hpending⟩⟩ := hbooks.owed howed
    · rw [hidle] at hrecovering
      cases hrecovering
    · refine ⟨hopen, hactive, ?_⟩
      cases hran with
      | leaves _ _ _ => exact .inr ⟨hrunning, hpending⟩
      | delays _ _ _ => exact .inr ⟨hrunning, hpending⟩
      | cancels _ _ _ => exact .inr ⟨hrunning, hpending⟩
      | calls _ _ _ _ => exact .inl rfl
      | finishes hworker =>
        -- a worker in the callback is one that runs it
        have hcalling := hshaped.callbackRunning_iff.mpr (List.mem_of_getElem? hworker)
        rw [hrunning] at hcalling
        cases hcalling
  · intro hrecovering
    cases hran with
    | calls _ _ _ _ => rfl
    | leaves _ _ _ => cases hrecovering
    | delays _ _ _ => cases hrecovering
    | cancels _ _ _ => cases hrecovering
    | finishes _ => cases hrecovering
  · intro hclosing
    rw [show f.closed = s.handler.closed from hran.closed_eq]
    exact h.handlerOpen hclosing
  · intro hclosing
    rw [show f.closed = s.handler.closed from hran.closed_eq,
      show f.joining = s.handler.joining from hjoining]
    exact h.handlerClosed hclosing

/-- The callback of the handler leaves nothing owed. -/
theorem RosBooks.recover (h : RosBooks input tr s) :
    RosBooks input (tr ++ s.stopPipelineAfterFailure.events)
      { s.stopPipelineAfterFailure.stream with recovering := false } := by
  unfold RosStream.stopPipelineAfterFailure
  split
  · rename_i hshut
    rw [List.append_nil]
    refine ⟨h.configured, h.finished, h.running, h.pushes, ?_, h.shut, h.subscriptions, by simp,
      h.handlerOpen, h.handlerClosed, h.shutdownSeen⟩
    intro howed
    rw [(h.owed howed).1] at hshut
    cases hshut
  · have hdropped := h.begin.drop
    refine ⟨hdropped.configured, hdropped.finished, hdropped.running, hdropped.pushes, ?_,
      hdropped.shut, hdropped.subscriptions, by simp, hdropped.handlerOpen, hdropped.handlerClosed,
      hdropped.shutdownSeen⟩
    intro howed
    have hactive := (hdropped.owed howed).2.1
    rw [stream_drop] at hactive
    cases hactive

theorem RosBooks.shutDown (h : RosBooks input tr s) : Kept input tr s.shutDown := by
  unfold RosStream.shutDown
  split
  · exact h.begin
  · rename_i hopen
    have hnone : s.closing = none := by
      have hnot : ¬ s.closing ≠ none := by
        rw [← h.shut]
        exact hopen
      exact not_not.mp hnot
    have hconfigured := h.configured (by rw [hnone]; simp)
    refine ⟨fun _ => hconfigured, by simp, ?_, ?_, ?_, by simp, fun _ => ⟨rfl, rfl⟩, h.recovering,
      fun _ => h.handlerOpen (.inl hnone), by simp, fun _ => rfl⟩
    · intro description
      rw [Running, standing_concat_of_not_set rfl]
      exact ⟨fun hold => (h.running description).mp hold.1,
        fun hsame => ⟨(h.running description).mpr hsame, RosStreamEvent.noConfusion⟩⟩
    · exact pushesMatch_append h.pushes (by simp)
    · rw [FailureOwed, standing_concat_of_not_set rfl]
      exact fun howed => absurd (.inr rfl) howed.2

theorem RosBooks.closeHandler (h : RosBooks input tr s) (hshaped : Shaped s.handler)
    (hclosing : s.closing = some .handler) : Kept input tr s.closeHandler := by
  have hopen := h.handlerOpen (.inr hclosing)
  have hquiet : ∀ e ∈ s.closeHandler.events, e.isQuiet = true := by
    intro e he
    unfold RosStream.closeHandler at he
    dsimp only at he
    split at he
    · simp only [List.mem_cons, List.not_mem_nil, or_false] at he
      rcases he with rfl | rfl <;> rfl
    · rw [List.mem_singleton.mp he]
      rfl
  have hbooks := h.quiet hquiet
  have hshut : s.isShutdown = true := h.shut.mpr (by rw [hclosing]; simp)
  have hconfigured := h.configured (by rw [hclosing]; simp)
  have hclosed : s.handler.close.1.closed = true := by
    unfold FailureHandler.close
    rw [if_neg (by rw [hopen]; simp)]
    split <;> rfl
  have hrunning : s.handler.close.1.callbackRunning = s.handler.callbackRunning := by
    unfold FailureHandler.close
    rw [if_neg (by rw [hopen]; simp)]
    split <;> rfl
  have hjoining : s.handler.close.2 = true → s.handler.close.1.joining = [] := by
    unfold FailureHandler.close
    rw [if_neg (by rw [hopen]; simp)]
    split
    · intro hno
      cases hno
    · exact fun _ => hshaped.joining_of_open hopen
  have hstage : s.closeHandler.stream.closing ≠ none := by
    simp [RosStream.closeHandler]
  refine ⟨fun _ => hconfigured, ?_, hbooks.running, hbooks.pushes, ?_,
    ⟨fun _ => hstage, fun _ => hshut⟩, h.subscriptions, ?_, ?_, ?_, fun _ => hshut⟩
  · intro hfinished
    simp only [RosStream.closeHandler] at hfinished
    split at hfinished
    · cases hfinished
    · cases hfinished
  · intro howed
    have hnot := (hbooks.owed howed).1
    rw [hshut] at hnot
    cases hnot
  · intro hrecovering
    exact hrunning.trans (h.recovering hrecovering)
  · intro hstart
    simp only [RosStream.closeHandler] at hstart
    split at hstart
    · simp at hstart
    · simp at hstart
  · intro hlater
    simp only [RosStream.closeHandler] at hlater ⊢
    split at hlater
    · rename_i hdone
      exact ⟨hclosed, hjoining hdone⟩
    · simp at hlater

theorem RosBooks.join (h : RosBooks input tr s) (hshaped : Shaped s.handler) {i : Nat}
    (hclosing : s.closing = some .joining) (hjoining : i ∈ s.handler.joining) :
    RosBooks input (tr ++ [.handler .closeReturned])
      { s with
        handler := { s.handler with joining := s.handler.joining.erase i }
        closing := some .pipeline } := by
  have hbooks : RosBooks input (tr ++ [.handler .closeReturned]) s :=
    h.quiet (by simp [RosStreamEvent.isQuiet])
  have hshut : s.isShutdown = true := h.shut.mpr (by rw [hclosing]; simp)
  have hconfigured := h.configured (by rw [hclosing]; simp)
  have hhandler : s.handler.closed = true ∧ s.handler.joining.erase i = [] := by
    cases hhandler : s.handler with
    | mk delay closed pending callbackRunning joinable workers joining =>
      rw [hhandler] at hshaped hjoining
      cases hshaped with
      | unstarted => cases hjoining
      | working => cases hjoining
      | joined => cases hjoining
      | joining delay pending worker =>
        rw [List.mem_singleton.mp hjoining]
        exact ⟨rfl, rfl⟩
  refine ⟨fun _ => hconfigured, by simp, hbooks.running, hbooks.pushes, ?_,
    ⟨fun _ => by simp, fun _ => hshut⟩, h.subscriptions, h.recovering, by simp, fun _ => hhandler,
    fun _ => hshut⟩
  intro howed
  have hnot := (hbooks.owed howed).1
  rw [hshut] at hnot
  cases hnot

theorem RosBooks.stop (h : RosBooks input tr s) (hclosing : s.closing = some .pipeline) :
    RosBooks input (tr ++ (Section.stop ⟨s, []⟩).events)
      { (Section.stop ⟨s, []⟩).stream with closing := some .finished } := by
  have hshut : s.isShutdown = true := h.shut.mpr (by rw [hclosing]; simp)
  have hnotOwed : ¬ FailureOwed tr := by
    intro howed
    have hnot := (h.owed howed).1
    rw [hshut] at hnot
    cases hnot
  cases hpipeline : s.pipeline with
  | none =>
    have hstop : Section.stop ⟨s, []⟩ = ⟨s, []⟩ := by
      rw [Section.stop]
      simp only [hpipeline]
    rw [hstop, List.append_nil]
    exact ⟨by simp, fun _ => hpipeline, h.running, h.pushes, fun howed => absurd howed hnotOwed,
      ⟨fun _ => by simp, fun _ => hshut⟩, h.subscriptions, h.recovering, by simp,
      fun _ => h.handlerClosed (.inl hclosing), fun _ => hshut⟩
  | some description =>
    have hstop : Section.stop ⟨s, []⟩ = ⟨{ s with pipeline := none }, [.stopped]⟩ := by
      rw [Section.stop]
      simp only [hpipeline, List.nil_append]
    rw [hstop]
    refine ⟨by simp, fun _ => rfl, ?_, pushesMatch_append h.pushes (by simp), ?_,
      ⟨fun _ => by simp, fun _ => hshut⟩, h.subscriptions, h.recovering, by simp,
      fun _ => h.handlerClosed (.inl hclosing), fun _ => hshut⟩
    · intro other
      exact ⟨fun hrunning => absurd hrunning (not_running_stopped other), fun hnone => by cases hnone⟩
    · exact fun howed => absurd howed not_failureOwed_stopped

theorem RosBooks.step (h : RosBooks input tr s) (hshaped : Shaped s.handler)
    (hs : RosStreamStep input s evs t) : RosBooks input (tr ++ evs) t := by
  cases hs with
  | start subscribes hstart => exact h.start hstart
  | onRawImage image answers => exact h.handled (handled_onRawImage input s image answers)
  | onCompressedImage image answers =>
    exact h.handled (handled_onCompressedImage input s image answers)
  | onPipelineFailure reason => exact h.failed reason
  | run i timedOut hidle hrun => exact h.run hshaped hidle hrun
  | recover _ => exact h.recover
  | shutDown => exact h.shutDown
  | closeHandler hclosing => exact h.closeHandler hshaped hclosing
  | join hclosing hjoining _ => exact h.join hshaped hclosing hjoining
  | stop hclosing => exact h.stop hclosing

theorem rosBooks_of_trace (h : (rosStreamMachine input).Trace tr s) : RosBooks input tr s := by
  refine Machine.Trace.invariant (P := RosBooks input) ?_ ?_ h
  · rintro _ rfl
    exact RosBooks.initial input
  · intro tr evs s t htrace hbooks hs
    exact hbooks.step (shaped_handler htrace) hs

end Steps

/-! ### Results -/

/-- Either callback. -/
def RosStream.onFrame (input : RosSetup) (s : RosStream) (frame : Frame) (answers : Answers) :
    Section :=
  match frame with
  | .raw image => s.onRawImage input image answers
  | .compressed image => s.onCompressedImage input image answers

theorem handled_onFrame (input : RosSetup) (s : RosStream) (frame : Frame) (answers : Answers) :
    Handled input s frame answers (s.onFrame input frame answers) := by
  cases frame with
  | raw image => exact handled_onRawImage input s image answers
  | compressed image => exact handled_onCompressedImage input s image answers

section Results

variable {input : RosSetup} {tr evs : List RosStreamEvent} {s t : RosStream} {x : Section}

/-- The event is one that no shut down stream emits. -/
def RosStreamEvent.isWork : RosStreamEvent → Bool
  | .subscribed _ => true
  | .started _ => true
  | .pushed _ _ _ => true
  | _ => false

theorem isShutdown_push (x : Section) (frame : Frame) (buffer : Except Str AppsrcBuffer)
    (refusal : Str) (answers : Answers) :
    (x.push frame buffer refusal answers).stream.isShutdown = x.stream.isShutdown := by
  unfold Section.push
  split
  · rw [Section.fail, stream_drop]
    rfl
  · split
    · rfl
    · rw [Section.fail, stream_drop]
      rfl

theorem isShutdown_handled {frame : Frame} {answers : Answers}
    (h : Handled input s frame answers x) : x.stream.isShutdown = s.isShutdown := by
  cases h with
  | ignored _ => rfl
  | unsupported what _ _ =>
    rw [Section.fail, stream_drop]
    rfl
  | pushed refusal _ _ _ _ => rw [isShutdown_push]
  | notStarted logged what _ _ _ _ _ =>
    rw [Section.fail, stream_drop]
    simp only [Section.emit]
    rw [stream_drop]
  | restarted logged refusal _ _ _ _ _ =>
    rw [isShutdown_push]
    have hsame : ∀ s : RosStream, (frame.remember s).isShutdown = s.isShutdown := by
      intro s
      cases frame <;> rfl
    rw [hsame, stream_drop]

/-- Only `close` shuts the stream down, and it does nothing else. -/
theorem RosStreamStep.shuts (hs : RosStreamStep input s evs t) (hopen : s.isShutdown = false)
    (hshut : t.isShutdown = true) : evs = [.shutdown] := by
  cases hs with
  | start subscribes hstart =>
    rw [RosStream.start, if_neg (by rw [hopen]; simp)] at hstart
    split at hstart
    · cases hstart
      rw [hopen] at hshut
      cases hshut
    · cases subscribes with
      | error what => cases hstart
      | ok _ =>
        cases hstart
        split at hshut
        · rw [show s.isShutdown = true from hshut] at hopen
          cases hopen
        · rw [show s.isShutdown = true from hshut] at hopen
          cases hopen
  | onRawImage image answers =>
    rw [isShutdown_handled (handled_onRawImage input s image answers), hopen] at hshut
    cases hshut
  | onCompressedImage image answers =>
    rw [isShutdown_handled (handled_onCompressedImage input s image answers), hopen] at hshut
    cases hshut
  | onPipelineFailure reason =>
    unfold RosStream.onPipelineFailure at hshut
    split at hshut
    · rw [show s.isShutdown = true from hshut] at hopen
      cases hopen
    · rw [show s.isShutdown = true from hshut] at hopen
      cases hopen
  | recover _ =>
    rw [RosStream.stopPipelineAfterFailure, if_neg (by rw [hopen]; simp)] at hshut
    dsimp only at hshut
    rw [stream_drop, show s.isShutdown = false from hopen] at hshut
    cases hshut
  | shutDown => rw [RosStream.shutDown, if_neg (by rw [hopen]; simp)]
  | stop _ =>
    unfold Section.stop at hshut
    split at hshut
    · rw [show s.isShutdown = true from hshut] at hopen
      cases hopen
    · rw [show s.isShutdown = true from hshut] at hopen
      cases hopen
  | _ =>
    rw [show s.isShutdown = true from hshut] at hopen
    cases hopen

/-- A stream that is shut down starts and pushes nothing. -/
theorem RosStreamStep.idle (hs : RosStreamStep input s evs t) (hshut : s.isShutdown = true) :
    ∀ e ∈ evs, e.isWork = false := by
  cases hs with
  | start subscribes hstart =>
    rw [RosStream.start, if_pos hshut] at hstart
    cases hstart
  | onRawImage image answers =>
    rw [RosStream.onRawImage, if_pos hshut]
    simp
  | onCompressedImage image answers =>
    rw [RosStream.onCompressedImage, if_pos hshut]
    simp
  | onPipelineFailure reason =>
    rw [RosStream.onPipelineFailure, if_pos (by rw [hshut]; rfl)]
    simp
  | run i timedOut _ _ =>
    intro e he
    obtain ⟨event, -, rfl⟩ := List.mem_map.mp he
    rfl
  | recover _ =>
    rw [RosStream.stopPipelineAfterFailure, if_pos hshut]
    simp
  | shutDown =>
    rw [RosStream.shutDown, if_pos hshut]
    simp
  | closeHandler _ =>
    unfold RosStream.closeHandler
    dsimp only
    split
    · simp [RosStreamEvent.isWork]
    · simp [RosStreamEvent.isWork]
  | join _ _ _ => simp [RosStreamEvent.isWork]
  | stop _ =>
    unfold Section.stop
    split
    · simp
    · simp [RosStreamEvent.isWork]

/-- **What a video topic pushes fits.**  In every order of images, failures, the worker and
`close`: each buffer carries its frame's bytes, time and geometry, into a pipeline that was
started for the frame's layout or codec and not stopped since.  Until `close` is over, a pipeline
runs exactly if a layout or a codec is remembered, and never both; it is the one for it.  From the
shutdown on nothing is subscribed to, started or pushed, and when `close` is over there is no
pipeline, no subscription and no worker in the callback. -/
theorem rosStream_pushes_match (h : (rosStreamMachine input).Trace tr s) :
    PushesMatch input tr ∧
    (s.closing ≠ some .finished →
      s.pipeline = s.expected input ∧ (s.rawLayout = none ∨ s.codec = none)) ∧
    (∀ pre e post, tr = pre ++ e :: post → .shutdown ∈ pre → e.isWork = false) ∧
    (s.closing = some .finished → s.pipeline = none ∧ s.rawSubscription = false ∧
      s.compressedSubscription = false ∧ s.recovering = false ∧ .calling ∉ s.handler.workers) := by
  have hbooks := rosBooks_of_trace h
  refine ⟨hbooks.pushes, hbooks.configured, ?_, ?_⟩
  · refine h.at_event (P := fun pre e => .shutdown ∈ pre → e.isWork = false) ?_
    intro tr evs s t htrace hs pre e post hevs hmem
    have he : e ∈ evs := by
      rw [hevs]
      simp
    have hbefore := rosBooks_of_trace htrace
    cases hopen : s.isShutdown with
    | true => exact hs.idle hopen e he
    | false =>
      rcases List.mem_append.mp hmem with hold | hnew
      · rw [hbefore.shutdownSeen hold] at hopen
        cases hopen
      · have hafter := rosBooks_of_trace (htrace.step hs)
        have hevs' := hs.shuts hopen (hafter.shutdownSeen (by rw [hevs]; simp [hnew]))
        rw [hevs'] at he
        rw [List.mem_singleton.mp he]
        rfl
  · intro hfinished
    obtain ⟨hclosed, hjoining⟩ := hbooks.handlerClosed (.inr hfinished)
    have hshaped := shaped_handler h
    have hidle := hshaped.idle_of_joined hclosed hjoining
    obtain ⟨hraw, hcompressed⟩ := hbooks.subscriptions (hbooks.shut.mpr (by rw [hfinished]; simp))
    refine ⟨hbooks.finished hfinished, hraw, hcompressed, ?_, hidle⟩
    rw [Bool.eq_false_iff]
    intro hrecovering
    exact hidle (hshaped.callbackRunning_iff.mp (hbooks.recovering hrecovering))

/-! ### One frame -/

/-- The frame gets through: it is of a supported kind, has a time, and GStreamer takes it, into
the pipeline that runs or one that can be started. -/
def GetsThrough (input : RosSetup) (s : RosStream) (frame : Frame) (answers : Answers) : Prop :=
  (frame.description input).isSome = true ∧ (∃ buffer, frame.buffer input answers = .ok buffer) ∧
    answers.accepts = true ∧
    (frame.Remembered s ∧ s.pipeline.isSome = true ∨ answers.start = .ok ())

/-- Nothing is left of a pipeline. -/
def RosStream.Clean (s : RosStream) : Prop :=
  s.pipeline = none ∧ s.rawLayout = none ∧ s.codec = none ∧ s.handler.pending = false

theorem clean_fail (x : Section) (what : Str) :
    (x.fail what).stream.Clean ∧ .appsrcPushFailed what ∈ (x.fail what).events := by
  rw [Section.fail, stream_drop, events_drop]
  exact ⟨⟨rfl, rfl, rfl, rfl⟩, by simp [Section.emit]⟩

theorem push_cases (x : Section) (frame : Frame) (buffer : Except Str AppsrcBuffer) (refusal : Str)
    (answers : Answers) :
    (∃ made, buffer = .ok made ∧ answers.accepts = true ∧
      x.push frame buffer refusal answers = x.emit (.pushed frame made true)) ∨
    (¬ ((∃ made, buffer = .ok made) ∧ answers.accepts = true) ∧
      (x.push frame buffer refusal answers).stream.Clean ∧
      ∃ what, .appsrcPushFailed what ∈ (x.push frame buffer refusal answers).events) := by
  unfold Section.push
  cases buffer with
  | error what =>
    right
    obtain ⟨hclean, hlogged⟩ := clean_fail x what
    exact ⟨by simp, hclean, what, hlogged⟩
  | ok made =>
    cases haccepts : answers.accepts with
    | true => exact .inl ⟨made, rfl, rfl, rfl⟩
    | false =>
      right
      obtain ⟨hclean, hlogged⟩ := clean_fail (x.emit (.pushed frame made false)) refusal
      exact ⟨by simp, hclean, refusal, hlogged⟩

/-- **One frame.**  In every state that an open stream can be in: a frame that gets through leaves
the pipeline for frames like it running and remembered, and is the last thing pushed; if the
pipeline was that one before, nothing else happens.  Any other frame leaves nothing of a pipeline
and no failure pending, and says why; so the next frame that can start a pipeline does. -/
theorem frame_outcome (h : (rosStreamMachine input).Trace tr s) (hopen : s.isShutdown = false)
    (frame : Frame) (answers : Answers) :
    (GetsThrough input s frame answers →
      (s.onFrame input frame answers).stream.pipeline = frame.description input ∧
      frame.Remembered (s.onFrame input frame answers).stream ∧
      (∃ before buffer, (s.onFrame input frame answers).events =
        before ++ [.pushed frame buffer true] ∧ frame.CarriedBy input buffer) ∧
      (frame.Remembered s ∧ s.pipeline.isSome = true →
        (s.onFrame input frame answers).stream = s ∧
          (s.onFrame input frame answers).events.length = 1)) ∧
    (¬ GetsThrough input s frame answers →
      (s.onFrame input frame answers).stream.Clean ∧
        ∃ what, .appsrcPushFailed what ∈ (s.onFrame input frame answers).events) := by
  have hx := handled_onFrame input s frame answers
  have hkept := (rosBooks_of_trace h).handled hx
  generalize s.onFrame input frame answers = x at hx hkept
  cases hx with
  | ignored hshut =>
    rw [hopen] at hshut
    cases hshut
  | unsupported what _ hnone =>
    refine ⟨fun hgets => ?_, fun _ => ?_⟩
    · rw [GetsThrough, hnone] at hgets
      cases hgets.1
    · exact ⟨(clean_fail _ what).1, what, (clean_fail _ what).2⟩
  | @pushed description refusal _ hdescription hremembered hactive =>
    rcases push_cases ⟨s, []⟩ frame (frame.buffer input answers) refusal answers with
      ⟨made, hmade, haccepts, heq⟩ | ⟨hnot, hclean, hlogged⟩
    · rw [heq]
      have hgets : GetsThrough input s frame answers :=
        ⟨by rw [hdescription]; rfl, ⟨made, hmade⟩, haccepts, .inl ⟨hremembered, hactive⟩⟩
      refine ⟨fun _ => ⟨?_, hremembered, ⟨[], made, rfl, carriedBy_of_buffer hmade⟩,
        fun _ => ⟨rfl, rfl⟩⟩, fun hno => absurd hgets hno⟩
      -- the buffer went into the pipeline that ran
      rw [heq] at hkept
      have hlast := hkept.pushes tr frame made true [] (by simp [Section.emit])
      obtain ⟨other, hother, hran, -⟩ := hlast
      rw [hother]
      exact ((rosBooks_of_trace h).running other).mp hran
    · exact ⟨fun hgets => absurd ⟨hgets.2.1, hgets.2.2.1⟩ hnot, fun _ => ⟨hclean, hlogged⟩⟩
  | notStarted logged what _ _ hother _ hstart =>
    refine ⟨fun hgets => ?_, fun _ => ⟨(clean_fail _ what).1, what, (clean_fail _ what).2⟩⟩
    rcases hgets.2.2.2 with hremembered | hok
    · exact absurd hremembered hother
    · rw [hstart] at hok
      cases hok
  | @restarted description logged refusal _ hdescription hother _ hstart =>
    rcases push_cases
      { stream :=
          frame.remember { (Section.drop ⟨s, logged⟩).stream with pipeline := some description }
        events := (Section.drop ⟨s, logged⟩).events ++ [.started description] }
      frame (frame.buffer input answers) refusal answers with
      ⟨made, hmade, haccepts, heq⟩ | ⟨hnot, hclean, hlogged⟩
    · rw [heq]
      have hgets : GetsThrough input s frame answers :=
        ⟨by rw [hdescription]; rfl, ⟨made, hmade⟩, haccepts, .inr hstart⟩
      refine ⟨fun _ => ⟨?_, ?_, ⟨_, made, rfl, carriedBy_of_buffer hmade⟩,
        fun hremembered => absurd hremembered hother⟩, fun hno => absurd hgets hno⟩
      · rw [hdescription]
        cases frame <;> rfl
      · cases frame <;> rfl
    · exact ⟨fun hgets => absurd ⟨hgets.2.1, hgets.2.2.1⟩ hnot, fun _ => ⟨hclean, hlogged⟩⟩

/-! ### A failure -/

/-- Without a delay the worker is never in its wait for it. -/
theorem immediate_of_trace {tr : List FailureEvent} {f : FailureHandler}
    (h : (failures 0).Trace tr f) : f.delay = 0 ∧ .delaying ∉ f.workers := by
  refine Machine.Trace.invariant (P := fun _ f => f.delay = 0 ∧ .delaying ∉ f.workers) ?_ ?_ h
  · rintro _ rfl
    exact ⟨rfl, by simp [FailureHandler.initial]⟩
  · rintro tr evs f g - ⟨hdelay, hnot⟩ hs
    have hset : ∀ i worker, worker ≠ .delaying → .delaying ∉ f.workers.set i worker := by
      intro i worker hne hmem
      rcases List.mem_or_eq_of_mem_set hmem with hold | heq
      · exact hnot hold
      · exact hne heq.symm
    cases hs with
    | schedule =>
      unfold FailureHandler.schedule
      split
      · exact ⟨hdelay, hnot⟩
      · refine ⟨hdelay, ?_⟩
        dsimp only
        split
        · exact hnot
        · simpa using hnot
    | cancelPending => exact ⟨hdelay, hnot⟩
    | close =>
      unfold FailureHandler.close
      split
      · exact ⟨hdelay, hnot⟩
      · split
        · exact ⟨hdelay, hnot⟩
        · exact ⟨hdelay, hnot⟩
    | join _ _ => exact ⟨hdelay, hnot⟩
    | run i timedOut hrun =>
      cases ran_of_run hrun with
      | leaves _ _ _ => exact ⟨hdelay, hset i .returned (by decide)⟩
      | delays hworker hopen hpending =>
        rw [FailureHandler.run, hworker] at hrun
        simp [hopen, hpending, hdelay, FailureHandler.call] at hrun
      | cancels _ _ _ => exact ⟨hdelay, hset i .waiting (by decide)⟩
      | calls _ _ _ _ => exact ⟨hdelay, hset i .calling (by decide)⟩
      | finishes _ => exact ⟨hdelay, hset i .waiting (by decide)⟩

theorem run_of_pending {f : FailureHandler} (hshaped : Shaped f)
    (himmediate : f.delay = 0 ∧ .delaying ∉ f.workers) (hopen : f.closed = false)
    (hpending : f.pending = true) (hidle : f.callbackRunning = false) :
    f.run 0 false = some (f.call 0) := by
  cases hshaped with
  | unstarted => cases hpending
  | joining => cases hopen
  | joined => cases hopen
  | working delay pending worker hworker =>
    obtain ⟨hdelay, hnot⟩ := himmediate
    have hdelay' : delay = 0 := hdelay
    have hpending' : pending = true := hpending
    cases worker with
    | waiting => simp [FailureHandler.run, hdelay', hpending']
    | delaying => simp at hnot
    | calling => cases hidle
    | returned => exact absurd rfl hworker

/-- **A failure that the handler took is not lost.**  In every run, while no pipeline was stopped
since and the stream was not closed, the pipeline is still there, and the worker is on its way: the
next steps of the worker alone stop it. -/
theorem failure_owed (h : (rosStreamMachine input).Trace tr s) (howed : FailureOwed tr) :
    s.isShutdown = false ∧ s.pipeline.isSome = true ∧
      ∃ evs t, Machine.Runs (rosStreamMachine input) s evs t ∧ t.Clean ∧
        (evs = [.handler .cancelled, .stopped] ∨
          evs = [.handler .started, .handler .cancelled, .stopped]) := by
  have hbooks := rosBooks_of_trace h
  obtain ⟨hopen, hactive, hworker⟩ := hbooks.owed howed
  refine ⟨hopen, hactive, ?_⟩
  have hrecover : ∀ t : RosStream, t.isShutdown = false → t.pipeline.isSome = true →
      t.stopPipelineAfterFailure.events = [.handler .cancelled, .stopped] ∧
        RosStream.Clean { t.stopPipelineAfterFailure.stream with recovering := false } := by
    intro t hopen hactive
    rw [RosStream.stopPipelineAfterFailure, if_neg (by rw [hopen]; simp), events_drop, stream_drop]
    exact ⟨by rw [if_pos hactive, List.nil_append], rfl, rfl, rfl, rfl⟩
  rcases hworker with hrecovering | ⟨hidle, hpending⟩
  · obtain ⟨hevs, hclean⟩ := hrecover s hopen hactive
    refine ⟨_, _, .single (.recover hrecovering), hclean, .inl hevs⟩
  · have hnone : s.closing = none := by
      have hnot : ¬ s.closing ≠ none := by
        rw [← hbooks.shut, hopen]
        exact Bool.false_ne_true
      exact not_not.mp hnot
    have hrun := run_of_pending (shaped_handler h)
      (immediate_of_trace ((projects_rosStream input).trace h)) (hbooks.handlerOpen (.inl hnone))
      hpending hidle
    have hfree : s.recovering = false := by
      rw [Bool.eq_false_iff]
      intro hrecovering
      rw [hbooks.recovering hrecovering] at hidle
      cases hidle
    have hcall : RosStreamStep input s [.handler .started]
        { s with handler := (s.handler.call 0).1, recovering := true } :=
      .run 0 false hfree hrun
    obtain ⟨hevs, hclean⟩ :=
      hrecover { s with handler := (s.handler.call 0).1, recovering := true } hopen hactive
    refine ⟨_, _, (Machine.Runs.single hcall).step (.recover rfl), hclean, .inr ?_⟩
    rw [hevs]
    rfl

end Results

/-- A camera with no transform, and its frames. -/
def cameraInput : RosSetup where
  topic := lit "/camera"
  interfaceType := lit "sensor_msgs/msg/Image"
  ingestMode := .rawImage
  ruleId := lit "default_ros"
  transformFragment := []
  nanoseconds stamp :=
    if stamp.sec < 0 then .error (lit "cannot store a negative time point in rclcpp::Time")
    else .ok (stamp.sec.toInt.toNat * 1000000000 + stamp.nanosec.toNat)
  formatToString format := if format = GstVideoFormat.rgb then lit "RGB" else lit "UNKNOWN"

def twoPixels : Image := ⟨⟨1, 5⟩, 2, 1, lit "rgb8", 6, [1, 2, 3, 4, 5, 6]⟩

/-- GStreamer does what it is asked. -/
def willing : Answers := ⟨.ok (), true, true, true⟩

/-- An image has started the pipeline. -/
def streaming : RosStream := (RosStream.initial.onRawImage cameraInput twoPixels willing).stream

theorem streaming_trace : (rosStreamMachine cameraInput).Trace
    ([] ++ (RosStream.initial.onRawImage cameraInput twoPixels willing).events) streaming :=
  Machine.Trace.step (.start rfl) (.onRawImage RosStream.initial twoPixels willing)

/-- The image was pushed, with its time in nanoseconds. -/
theorem rosStream_pushes_match_streaming :
    (.pushed (.raw twoPixels) ⟨[1, 2, 3, 4, 5, 6], 1000000005, 1000000005, some ⟨15, 2, 1, 0, 6⟩⟩ true :
      RosStreamEvent) ∈ (RosStream.initial.onRawImage cameraInput twoPixels willing).events ∧
    streaming.pipeline = streaming.expected cameraInput ∧ streaming.rawLayout = some ⟨2, 1, 15, 6⟩ := by
  refine ⟨by decide, ((rosStream_pushes_match streaming_trace).2.1 ?_).1, by decide⟩
  decide

/-- A second image like the first goes into the same pipeline. -/
theorem frame_outcome_again :
    (streaming.onFrame cameraInput (.raw twoPixels) willing).stream = streaming ∧
      (streaming.onFrame cameraInput (.raw twoPixels) willing).events.length = 1 := by
  have hlayout : streaming.rawLayout = some ⟨2, 1, 15, 6⟩ := by decide
  have hremembered : Frame.Remembered streaming (.raw twoPixels) ∧ streaming.pipeline.isSome = true :=
    ⟨hlayout, by decide⟩
  have hgets : GetsThrough cameraInput streaming (.raw twoPixels) willing :=
    ⟨by decide, ⟨⟨[1, 2, 3, 4, 5, 6], 1000000005, 1000000005, some ⟨15, 2, 1, 0, 6⟩⟩, by rfl⟩, rfl,
      .inl hremembered⟩
  exact ((frame_outcome streaming_trace (by decide) (.raw twoPixels) willing).1 hgets).2.2.2
    hremembered

/-- The pipeline reports an error, and two steps of the worker stop it. -/
theorem failure_owed_streaming :
    ∃ evs t, Machine.Runs (rosStreamMachine cameraInput)
      (streaming.onPipelineFailure (lit "error")).stream evs t ∧ t.pipeline = none := by
  have htrace := streaming_trace.step (.onPipelineFailure streaming (lit "error"))
  have hevents : (streaming.onPipelineFailure (lit "error")).events =
      [.handler (.scheduled true), .recoveryDisabled (lit "error")] := by decide
  have howed : FailureOwed (([] ++ (RosStream.initial.onRawImage cameraInput twoPixels willing).events) ++
      (streaming.onPipelineFailure (lit "error")).events) := by
    rw [hevents]
    exact ⟨_, .handler (.scheduled true), [.recoveryDisabled (lit "error")], rfl, rfl,
      by simp [RosStreamEvent.takes]⟩
  obtain ⟨-, -, evs, t, hruns, hclean, -⟩ := failure_owed htrace howed
  exact ⟨evs, t, hruns, hclean.1⟩

end Video

end LivekitBridge
