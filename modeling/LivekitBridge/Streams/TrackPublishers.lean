import LivekitBridge.Lib.Machine

/-!
# The tracks that publishers own

`video/track_publisher.cpp` and `audio/track_publisher.cpp`.  A publisher has no track until a frame
is captured, and then one; a video publisher replaces it when the size of the frames changes.
`capture` holds the mutex from its beginning to its end, so it is one step.  `close` takes the track
out under the mutex and unpublishes it afterwards, so it is two; a `close` that finds the publisher
closed returns.  A `captureFrame` that throws changes nothing here.

Publishing a track either throws and does nothing, or the room has a new track.  `published` are the
tracks of the room that were not unpublished, and `closing` the calls of `close` that have yet to
unpublish what they took.  What these can be is `Owned`.
-/

namespace LivekitBridge

open Lib

/-- The size of a video frame, or of a `VideoSource`. -/
structure FrameSize where
  width : Int
  height : Int
deriving DecidableEq, Repr

/-- The format of an audio frame, or of an `AudioSource`. -/
structure AudioFormat where
  sampleRate : Int
  numChannels : Int
deriving DecidableEq, Repr

/-- The members of a `TrackPublisher` (the last one is audio's), its tracks in the room, and the
calls of `close` in progress. -/
structure TrackPublisher (F : Type) where
  closed : Bool
  source : Option F
  track : Option Nat
  nextPublishAttempt : Nat
  published : List Nat
  created : Nat
  closing : List (Option Nat)
deriving DecidableEq, Repr

/-- What is seen of a run.  `captured` is a call of `captureFrame`; `attempted` an attempt of the
audio publisher at the time it has read. -/
inductive TrackEvent (F : Type)
  | published (track : Nat)
  | unpublished (track : Nat)
  | captured (frame source : F)
  | attempted (now : Nat) (succeeded : Bool)
  | closing
  | closeReturned
deriving DecidableEq, Repr

/-- Whether the source is created, and whether the track is published. -/
structure CaptureEffects where
  creates : Bool
  publishes : Bool
deriving DecidableEq, Repr

namespace TrackPublisher

variable {F : Type}

/-- The constructor. -/
def initial : TrackPublisher F := ⟨false, none, none, 0, [], 0, []⟩

def tryUnpublish (s : TrackPublisher F) (track : Option Nat) :
    TrackPublisher F × List (TrackEvent F) :=
  match track with
  | none => (s, [])
  | some track => ({ s with published := s.published.erase track }, [.unpublished track])

/-- A new source and a new track, published. -/
def publish (s : TrackPublisher F) (source : F) : TrackPublisher F × List (TrackEvent F) :=
  ({ s with
      source := some source
      track := some s.created
      published := s.published ++ [s.created]
      created := s.created + 1 }, [.published s.created])

/-- `source_->captureFrame` -/
def captureFrame (s : TrackPublisher F) (frame : F) : List (TrackEvent F) :=
  match s.source with
  | none => []
  | some source => [.captured frame source]

/-- The section of `close`, and whether there is more to do. -/
def close (s : TrackPublisher F) : TrackPublisher F × List (TrackEvent F) :=
  if s.closed then (s, [.closeReturned])
  else
    ({ s with closed := true, source := none, track := none, closing := s.track :: s.closing },
      [.closing])

/-- The rest of `close`. -/
def finishClose (s : TrackPublisher F) (track : Option Nat) :
    TrackPublisher F × List (TrackEvent F) :=
  let unpublished := s.tryUnpublish track
  ({ unpublished.1 with closing := s.closing.erase track }, unpublished.2 ++ [.closeReturned])

end TrackPublisher

open TrackPublisher

def Video.capture (s : TrackPublisher FrameSize) (fx : CaptureEffects) (frame : FrameSize) :
    TrackPublisher FrameSize × List (TrackEvent FrameSize) :=
  if s.closed then (s, [])
  else if s.source ≠ some frame then
    let unpublished := s.tryUnpublish s.track
    let s := { unpublished.1 with track := none, source := none }
    if fx.creates && fx.publishes then
      let published := s.publish frame
      (published.1, unpublished.2 ++ published.2 ++ published.1.captureFrame frame)
    else (s, unpublished.2)
  else (s, s.captureFrame frame)

/-- `audio::TrackPublisher::capture`; `now` is what the clock shows. -/
def Audio.capture (publishRetryInterval : Nat) (s : TrackPublisher AudioFormat)
    (fx : CaptureEffects) (frame : AudioFormat) (now : Nat) :
    TrackPublisher AudioFormat × List (TrackEvent AudioFormat) :=
  if s.closed then (s, [])
  else
    match s.source with
    | some _ => (s, s.captureFrame frame)
    | none =>
      if now < s.nextPublishAttempt then (s, [])
      else if fx.creates && fx.publishes then
        let published := s.publish frame
        (published.1, .attempted now true :: published.2 ++ published.1.captureFrame frame)
      else
        ({ s with nextPublishAttempt := now + publishRetryInterval }, [.attempted now false])

/-- One call of `capture`, or one part of a `close`. -/
inductive TrackStep {F I : Type}
    (capture : TrackPublisher F → I → TrackPublisher F × List (TrackEvent F)) :
    TrackPublisher F → List (TrackEvent F) → TrackPublisher F → Prop
  | capture (s : TrackPublisher F) (input : I) :
      TrackStep capture s (capture s input).2 (capture s input).1
  | close (s : TrackPublisher F) : TrackStep capture s s.close.2 s.close.1
  | finishClose {s : TrackPublisher F} {track : Option Nat} : track ∈ s.closing →
      TrackStep capture s (s.finishClose track).2 (s.finishClose track).1

/-- A publisher from its construction on. -/
def trackPublisher {F I : Type}
    (capture : TrackPublisher F → I → TrackPublisher F × List (TrackEvent F)) :
    Machine (TrackPublisher F) (TrackEvent F) where
  start s := s = .initial
  step := TrackStep capture

def videoPublisher : Machine (TrackPublisher FrameSize) (TrackEvent FrameSize) :=
  trackPublisher fun s (input : CaptureEffects × FrameSize) => Video.capture s input.1 input.2

def audioPublisher (publishRetryInterval : Nat) :
    Machine (TrackPublisher AudioFormat) (TrackEvent AudioFormat) :=
  trackPublisher fun s (input : CaptureEffects × AudioFormat × Nat) =>
    Audio.capture publishRetryInterval s input.1 input.2.1 input.2.2

/-! ### What is to hold -/

/-- There is one track at most: that of the publisher, or the one that a `close` has taken.  When no
`close` is in progress it is that of the publisher, and when one has returned there is none. -/
structure OwnsOne {F : Type} (tr : List (TrackEvent F)) (s : TrackPublisher F) : Prop where
  single : s.published.length ≤ 1
  owned : ∀ track ∈ s.published, s.track = some track ∨ some track ∈ s.closing
  between : s.closing = [] → s.published = s.track.toList
  source : s.source.isSome = s.track.isSome
  closed : .closeReturned ∈ tr → s.closing = [] → s.published = []
  silent : ∀ pre track post, tr = pre ++ .published track :: post →
    .closing ∉ pre ∧ .closeReturned ∉ pre

/-- When an attempt failed. -/
def TrackEvent.failedAt {F : Type} : TrackEvent F → Option Nat
  | .attempted now false => some now
  | _ => none

/-- The last failed attempt was at `time`. -/
def LastFailed {F : Type} (tr : List (TrackEvent F)) (time : Nat) : Prop :=
  Standing TrackEvent.failedAt (fun _ _ => False) tr time

/-! ### Who owns the track -/

/-- Nobody, the publisher, or a `close`. -/
inductive Owned {F : Type} : TrackPublisher F → Prop
  | empty (next created : Nat) : Owned ⟨false, none, none, next, [], created, []⟩
  | holding (source : F) (track next created : Nat) :
      Owned ⟨false, some source, some track, next, [track], created, []⟩
  | leaving (track next created : Nat) :
      Owned ⟨true, none, none, next, [track], created, [some track]⟩
  | returning (next created : Nat) : Owned ⟨true, none, none, next, [], created, [none]⟩
  | closed (next created : Nat) : Owned ⟨true, none, none, next, [], created, []⟩

def TrackEvent.OfCapture {F : Type} : TrackEvent F → Prop
  | .closing => False
  | .closeReturned => False
  | _ => True

/-- A capture keeps the ownership, and does nothing when the publisher is closed. -/
structure CapturesSafely {F I : Type}
    (capture : TrackPublisher F → I → TrackPublisher F × List (TrackEvent F)) : Prop where
  owned : ∀ s input, Owned s → Owned (capture s input).1
  closed : ∀ s input, (capture s input).1.closed = s.closed
  silent : ∀ s input, s.closed = true → (capture s input).2 = []
  events : ∀ s input, ∀ e ∈ (capture s input).2, e.OfCapture

section Captures

variable {F : Type}

theorem captureFrame_events (s : TrackPublisher F) (frame : F) :
    ∀ e ∈ s.captureFrame frame, e.OfCapture ∧ ∃ source, s.source = some source ∧
      e = .captured frame source := by
  intro e he
  rw [captureFrame] at he
  cases hsource : s.source with
  | none =>
    rw [hsource] at he
    cases he
  | some source =>
    rw [hsource] at he
    rw [List.mem_singleton.mp he]
    exact ⟨trivial, source, rfl, rfl⟩

theorem tryUnpublish_events (s : TrackPublisher F) (track : Option Nat) :
    ∀ e ∈ (s.tryUnpublish track).2, ∃ track', e = .unpublished track' := by
  intro e he
  cases track with
  | none => cases he
  | some track =>
    rw [List.mem_singleton.mp he]
    exact ⟨track, rfl⟩

theorem tryUnpublish_closed (s : TrackPublisher F) (track : Option Nat) :
    (s.tryUnpublish track).1.closed = s.closed := by
  cases track <;> rfl

/-- What is seen of a capture of a video frame: a track that goes, one that comes, and the frame in
a source of its size. -/
theorem Video.capture_events (s : TrackPublisher FrameSize) (fx : CaptureEffects)
    (frame : FrameSize) : ∀ e ∈ (Video.capture s fx frame).2,
      (∃ track, e = .unpublished track) ∨ (∃ track, e = .published track) ∨
        e = .captured frame frame := by
  intro e he
  simp only [Video.capture] at he
  split at he
  · cases he
  · split at he
    · split at he
      · rcases List.mem_append.mp he with he | he
        · rcases List.mem_append.mp he with he | he
          · exact .inl (tryUnpublish_events _ _ e he)
          · exact .inr (.inl ⟨_, List.mem_singleton.mp he⟩)
        · exact .inr (.inr (List.mem_singleton.mp he))
      · exact .inl (tryUnpublish_events _ _ e he)
    · rename_i hsame
      obtain ⟨_, source, hsource, heq⟩ := captureFrame_events s frame e he
      rw [not_not.mp hsame] at hsource
      obtain rfl := Option.some.inj hsource
      exact .inr (.inr heq)

theorem Video.capturesSafely :
    CapturesSafely fun s (input : CaptureEffects × FrameSize) => Video.capture s input.1 input.2 where
  owned s input h := by
    obtain ⟨fx, frame⟩ := input
    cases h with
    | empty next created =>
      simp only [Video.capture, tryUnpublish]
      split
      · exact .empty next created
      · split
        · split
          · exact .holding frame created next (created + 1)
          · exact .empty next created
        · exact .empty next created
    | holding source track next created =>
      simp only [Video.capture, tryUnpublish, List.erase_cons_head]
      split
      · exact .holding source track next created
      · split
        · split
          · exact .holding frame created next (created + 1)
          · exact .empty next created
        · exact .holding source track next created
    | leaving track next created => exact .leaving track next created
    | returning next created => exact .returning next created
    | closed next created => exact .closed next created
  closed s input := by
    simp only [Video.capture]
    split
    · rfl
    · split
      · split
        · exact tryUnpublish_closed s s.track
        · exact tryUnpublish_closed s s.track
      · rfl
  silent s input hclosed := by
    simp only [Video.capture, if_pos hclosed]
  events s input e he := by
    rcases Video.capture_events s input.1 input.2 e he with ⟨track, rfl⟩ | ⟨track, rfl⟩ | rfl
    · exact trivial
    · exact trivial
    · exact trivial

/-- What a capture of an audio frame does. -/
inductive Audio.Captured (publishRetryInterval : Nat) (s : TrackPublisher AudioFormat)
    (frame : AudioFormat) (now : Nat) :
    TrackPublisher AudioFormat → List (TrackEvent AudioFormat) → Prop
  | ignores : s.closed = true ∨ now < s.nextPublishAttempt →
      Audio.Captured publishRetryInterval s frame now s []
  | captures : s.closed = false → s.source ≠ none →
      Audio.Captured publishRetryInterval s frame now s (s.captureFrame frame)
  | publishes : s.closed = false → s.source = none → s.nextPublishAttempt ≤ now →
      Audio.Captured publishRetryInterval s frame now (s.publish frame).1
        [.attempted now true, .published s.created, .captured frame frame]
  | fails : s.closed = false → s.source = none → s.nextPublishAttempt ≤ now →
      Audio.Captured publishRetryInterval s frame now
        { s with nextPublishAttempt := now + publishRetryInterval } [.attempted now false]

theorem Audio.captured (publishRetryInterval : Nat) (s : TrackPublisher AudioFormat)
    (fx : CaptureEffects) (frame : AudioFormat) (now : Nat) :
    Audio.Captured publishRetryInterval s frame now
      (Audio.capture publishRetryInterval s fx frame now).1
      (Audio.capture publishRetryInterval s fx frame now).2 := by
  rw [Audio.capture]
  split
  · rename_i hclosed
    exact .ignores (.inl hclosed)
  · rename_i hopen
    rw [Bool.not_eq_true] at hopen
    split
    · rename_i source hsource
      exact .captures hopen (by rw [hsource]; exact Option.some_ne_none source)
    · rename_i hsource
      split
      · rename_i hearly
        exact .ignores (.inr hearly)
      · rename_i hdue
        split
        · exact .publishes hopen hsource (Nat.le_of_not_lt hdue)
        · exact .fails hopen hsource (Nat.le_of_not_lt hdue)

section AudioCaptures

variable {publishRetryInterval now : Nat} {s t : TrackPublisher AudioFormat} {frame : AudioFormat}
  {evs : List (TrackEvent AudioFormat)}

theorem Audio.Captured.owned (h : Audio.Captured publishRetryInterval s frame now t evs)
    (howned : Owned s) : Owned t := by
  cases h with
  | ignores _ => exact howned
  | captures _ _ => exact howned
  | publishes hopen hsource _ =>
    cases howned with
    | empty next created => exact .holding _ created next (created + 1)
    | holding source track next created => cases hsource
    | leaving track next created => cases hopen
    | returning next created => cases hopen
    | closed next created => cases hopen
  | fails hopen hsource _ =>
    cases howned with
    | empty next created => exact .empty _ created
    | holding source track next created => cases hsource
    | leaving track next created => cases hopen
    | returning next created => cases hopen
    | closed next created => cases hopen

theorem Audio.Captured.closed (h : Audio.Captured publishRetryInterval s frame now t evs) :
    t.closed = s.closed := by
  cases h <;> rfl

theorem Audio.Captured.events (h : Audio.Captured publishRetryInterval s frame now t evs) :
    ∀ e ∈ evs, e.OfCapture := by
  intro e he
  cases h with
  | ignores _ => cases he
  | captures _ _ => exact (captureFrame_events s _ e he).1
  | publishes _ _ _ =>
    have hcases : e = .attempted now true ∨ e = .published s.created ∨
        e = .captured frame frame := by simpa using he
    rcases hcases with rfl | rfl | rfl
    · exact trivial
    · exact trivial
    · exact trivial
  | fails _ _ _ =>
    rw [List.mem_singleton.mp he]
    exact trivial

theorem Audio.Captured.nextPublishAttempt
    (h : Audio.Captured publishRetryInterval s frame now t evs) :
    ((∀ e ∈ evs, e.failedAt = none) ∧ t.nextPublishAttempt = s.nextPublishAttempt) ∨
      (evs = [.attempted now false] ∧ t.nextPublishAttempt = now + publishRetryInterval) := by
  cases h with
  | ignores _ => exact .inl ⟨fun e he => (nomatch he), rfl⟩
  | captures _ _ =>
    refine .inl ⟨?_, rfl⟩
    intro e he
    obtain ⟨_, _, _, rfl⟩ := captureFrame_events s _ e he
    rfl
  | publishes _ _ _ => exact .inl ⟨by simp [TrackEvent.failedAt], rfl⟩
  | fails _ _ _ => exact .inr ⟨rfl, rfl⟩

theorem Audio.Captured.attempted_first
    (h : Audio.Captured publishRetryInterval s frame now t evs)
    {pre post : List (TrackEvent AudioFormat)} {time : Nat} {succeeded : Bool}
    (hevs : evs = pre ++ .attempted time succeeded :: post) :
    pre = [] ∧ s.nextPublishAttempt ≤ time := by
  cases h with
  | ignores _ => simp at hevs
  | captures _ _ =>
    have hmem : .attempted time succeeded ∈ s.captureFrame frame := by
      rw [hevs]
      exact List.mem_append_right pre List.mem_cons_self
    obtain ⟨_, _, _, heq⟩ := captureFrame_events s _ _ hmem
    cases heq
  | publishes _ _ hdue =>
    cases pre with
    | nil =>
      rw [List.nil_append, List.cons.injEq] at hevs
      cases hevs.1
      exact ⟨rfl, hdue⟩
    | cons e pre =>
      rw [List.cons_append, List.cons.injEq] at hevs
      have hlater : .attempted time succeeded ∈
          [.published s.created, TrackEvent.captured frame frame] := by
        rw [hevs.2]
        exact List.mem_append_right pre List.mem_cons_self
      simp at hlater
  | fails _ _ hdue =>
    cases pre with
    | nil =>
      rw [List.nil_append, List.cons.injEq] at hevs
      cases hevs.1
      exact ⟨rfl, hdue⟩
    | cons e pre => simp at hevs

end AudioCaptures

theorem Audio.capturesSafely (publishRetryInterval : Nat) :
    CapturesSafely fun s (input : CaptureEffects × AudioFormat × Nat) =>
      Audio.capture publishRetryInterval s input.1 input.2.1 input.2.2 where
  owned s input h := (Audio.captured publishRetryInterval s input.1 input.2.1 input.2.2).owned h
  closed s input := (Audio.captured publishRetryInterval s input.1 input.2.1 input.2.2).closed
  silent s input hclosed := by
    simp only [Audio.capture, if_pos hclosed]
  events s input := (Audio.captured publishRetryInterval s input.1 input.2.1 input.2.2).events

/-- The section of `close` is seen as its beginning, or as its return. -/
theorem close_events (s : TrackPublisher F) :
    ∀ e ∈ s.close.2, e = .closing ∨ e = .closeReturned := by
  intro e he
  rw [TrackPublisher.close] at he
  split at he
  · exact .inr (List.mem_singleton.mp he)
  · exact .inl (List.mem_singleton.mp he)

theorem close_nextPublishAttempt (s : TrackPublisher F) :
    s.close.1.nextPublishAttempt = s.nextPublishAttempt := by
  rw [TrackPublisher.close]
  split <;> rfl

/-- The rest of it is seen as the track that goes, and as its return. -/
theorem finishClose_events (s : TrackPublisher F) (track : Option Nat) :
    ∀ e ∈ (s.finishClose track).2, (∃ track', e = .unpublished track') ∨ e = .closeReturned := by
  intro e he
  rcases List.mem_append.mp he with he | he
  · exact .inl (tryUnpublish_events s track e he)
  · exact .inr (List.mem_singleton.mp he)

end Captures

/-! ### Runs -/

section Runs

variable {F I : Type} {capture : TrackPublisher F → I → TrackPublisher F × List (TrackEvent F)}

theorem owned_close {s : TrackPublisher F} (h : Owned s) : Owned s.close.1 := by
  cases h with
  | empty next created => exact .returning next created
  | holding source track next created => exact .leaving track next created
  | leaving track next created => exact .leaving track next created
  | returning next created => exact .returning next created
  | closed next created => exact .closed next created

theorem owned_finishClose {s : TrackPublisher F} {track : Option Nat} (h : Owned s)
    (hclosing : track ∈ s.closing) :
    Owned (s.finishClose track).1 ∧ s.closed = true ∧ (s.finishClose track).1.closed = true := by
  cases h with
  | empty next created => cases hclosing
  | holding source track' next created => cases hclosing
  | leaving track' next created =>
    obtain rfl := List.mem_singleton.mp hclosing
    refine ⟨?_, rfl, rfl⟩
    simp only [finishClose, tryUnpublish, List.erase_cons_head]
    exact .closed next created
  | returning next created =>
    obtain rfl := List.mem_singleton.mp hclosing
    exact ⟨.closed next created, rfl, rfl⟩
  | closed next created => cases hclosing

/-- The track has its owner, and after a `close` has begun the publisher is closed. -/
structure OwnedRun (tr : List (TrackEvent F)) (s : TrackPublisher F) : Prop where
  owned : Owned s
  closed : .closing ∈ tr ∨ .closeReturned ∈ tr → s.closed = true

theorem ownedRun (hcapture : CapturesSafely capture) {tr : List (TrackEvent F)}
    {s : TrackPublisher F} (h : (trackPublisher capture).Trace tr s) : OwnedRun tr s := by
  apply h.invariant (P := OwnedRun)
  · intro s hstart
    have heq : s = .initial := hstart
    rw [heq]
    exact ⟨.empty 0 0, fun hmem => by simp at hmem⟩
  · intro tr evs s t _ ih hstep
    cases hstep with
    | capture input =>
      refine ⟨hcapture.owned s input ih.owned, ?_⟩
      intro hmem
      rw [hcapture.closed]
      apply ih.closed
      rw [List.mem_append, List.mem_append] at hmem
      rcases hmem with (hold | hnew) | (hold | hnew)
      · exact .inl hold
      · exact (hcapture.events s input _ hnew).elim
      · exact .inr hold
      · exact (hcapture.events s input _ hnew).elim
    | close =>
      refine ⟨owned_close ih.owned, ?_⟩
      intro _
      rw [TrackPublisher.close]
      split
      · assumption
      · rfl
    | finishClose hclosing =>
      obtain ⟨howned, _, hclosed⟩ := owned_finishClose ih.owned hclosing
      exact ⟨howned, fun _ => hclosed⟩

theorem published_before_closing (hcapture : CapturesSafely capture) {tr : List (TrackEvent F)}
    {s : TrackPublisher F} (h : (trackPublisher capture).Trace tr s) :
    ∀ pre e post, tr = pre ++ e :: post → ∀ track, e = .published track →
      .closing ∉ pre ∧ .closeReturned ∉ pre := by
  apply h.at_event (P := fun pre e => ∀ track, e = .published track →
    .closing ∉ pre ∧ .closeReturned ∉ pre)
  intro tr evs s t prior hstep pre e post hevs track htrack
  have hmem : .published track ∈ evs := by
    rw [hevs, htrack]
    exact List.mem_append_right pre List.mem_cons_self
  cases hstep with
  | capture input =>
    have hopen : s.closed ≠ true := by
      intro hclosed
      rw [hcapture.silent s input hclosed] at hmem
      cases hmem
    have hclosed := (ownedRun hcapture prior).closed
    have hpre : ∀ e' ∈ pre, e'.OfCapture := by
      intro e' he'
      apply hcapture.events s input
      rw [hevs]
      exact List.mem_append_left _ he'
    constructor
    · intro hin
      rcases List.mem_append.mp hin with hold | hnew
      · exact hopen (hclosed (.inl hold))
      · exact hpre _ hnew
    · intro hin
      rcases List.mem_append.mp hin with hold | hnew
      · exact hopen (hclosed (.inr hold))
      · exact hpre _ hnew
  | close =>
    rcases close_events s _ hmem with heq | heq
    · cases heq
    · cases heq
  | finishClose _ =>
    rcases finishClose_events s _ _ hmem with ⟨_, heq⟩ | heq
    · cases heq
    · cases heq

theorem ownsOne (hcapture : CapturesSafely capture) {tr : List (TrackEvent F)}
    {s : TrackPublisher F} (h : (trackPublisher capture).Trace tr s) : OwnsOne tr s := by
  obtain ⟨howned, hclosed⟩ := ownedRun hcapture h
  have hsilent : ∀ pre track post, tr = pre ++ .published track :: post →
      .closing ∉ pre ∧ .closeReturned ∉ pre :=
    fun pre track post heq => published_before_closing hcapture h pre _ post heq track rfl
  cases howned with
  | empty next created =>
    exact ⟨Nat.zero_le 1, (fun _ hmem => nomatch hmem), fun _ => rfl, rfl, fun _ _ => rfl, hsilent⟩
  | holding source track next created =>
    refine ⟨Nat.le_refl 1, ?_, fun _ => rfl, rfl, ?_, hsilent⟩
    · intro track' hmem
      rw [List.mem_singleton.mp hmem]
      exact .inl rfl
    · intro hreturned
      cases hclosed (.inr hreturned)
  | leaving track next created =>
    refine ⟨Nat.le_refl 1, ?_, ?_, rfl, ?_, hsilent⟩
    · intro track' hmem
      rw [List.mem_singleton.mp hmem]
      exact .inr (List.mem_singleton_self _)
    · intro hnone
      cases hnone
    · intro _ hnone
      cases hnone
  | returning next created =>
    exact ⟨Nat.zero_le 1, (fun _ hmem => nomatch hmem), fun _ => rfl, rfl, fun _ _ => rfl, hsilent⟩
  | closed next created =>
    exact ⟨Nat.zero_le 1, (fun _ hmem => nomatch hmem), fun _ => rfl, rfl, fun _ _ => rfl, hsilent⟩

end Runs

theorem captured_same_size {tr : List (TrackEvent FrameSize)} {s : TrackPublisher FrameSize}
    (h : videoPublisher.Trace tr s) :
    ∀ frame source, .captured frame source ∈ tr → frame = source := by
  apply h.invariant (P := fun tr _ => ∀ frame source, .captured frame source ∈ tr → frame = source)
  · intro s _ frame source hmem
    cases hmem
  · intro tr evs s t _ ih hstep frame source hmem
    rcases List.mem_append.mp hmem with hold | hnew
    · exact ih frame source hold
    cases hstep with
    | capture input =>
      rcases Video.capture_events s input.1 input.2 _ hnew with ⟨_, heq⟩ | ⟨_, heq⟩ | heq
      · cases heq
      · cases heq
      · cases heq
        rfl
    | close =>
      rcases close_events s _ hnew with heq | heq
      · cases heq
      · cases heq
    | finishClose _ =>
      rcases finishClose_events s _ _ hnew with ⟨_, heq⟩ | heq
      · cases heq
      · cases heq

/-- **The time of the next attempt is that of the last failed one and the interval.** -/
theorem nextPublishAttempt_eq {publishRetryInterval : Nat} {tr : List (TrackEvent AudioFormat)}
    {s : TrackPublisher AudioFormat} (h : (audioPublisher publishRetryInterval).Trace tr s) :
    ∀ time, LastFailed tr time → s.nextPublishAttempt = time + publishRetryInterval := by
  apply h.invariant (P := fun tr s => ∀ time, LastFailed tr time →
    s.nextPublishAttempt = time + publishRetryInterval)
  · intro s _ time hfailed
    exact absurd hfailed (not_standing_nil time)
  · intro tr evs s t _ ih hstep
    have hquiet : (∀ e ∈ evs, e.failedAt = none) → t.nextPublishAttempt = s.nextPublishAttempt →
        ∀ time, LastFailed (tr ++ evs) time →
          t.nextPublishAttempt = time + publishRetryInterval := by
      intro hevs hsame time hfailed
      rw [hsame]
      exact ih time ((standing_append_of_quiet fun e he => ⟨hevs e he, id⟩).mp hfailed)
    cases hstep with
    | capture input =>
      rcases (Audio.captured publishRetryInterval s input.1 input.2.1 input.2.2).nextPublishAttempt
        with ⟨hevs, hsame⟩ | ⟨hevs, hnext⟩
      · exact hquiet hevs hsame
      · intro time hfailed
        have hset : (TrackEvent.attempted input.2.2 false : TrackEvent AudioFormat).failedAt =
          some input.2.2 := rfl
        rw [hevs] at hfailed
        have heq : time = input.2.2 := (standing_concat_of_set hset).mp hfailed
        rw [hnext, heq]
    | close =>
      apply hquiet _ (close_nextPublishAttempt s)
      intro e he
      rcases close_events s e he with rfl | rfl
      · rfl
      · rfl
    | @finishClose track _ =>
      apply hquiet
      · intro e he
        rcases finishClose_events s track e he with ⟨_, rfl⟩ | rfl
        · rfl
        · rfl
      · cases track <;> rfl

theorem attempted_after_interval {publishRetryInterval : Nat} {tr : List (TrackEvent AudioFormat)}
    {s : TrackPublisher AudioFormat} (h : (audioPublisher publishRetryInterval).Trace tr s) :
    ∀ pre now succeeded post, tr = pre ++ .attempted now succeeded :: post →
      ∀ time, LastFailed pre time → time + publishRetryInterval ≤ now := by
  have hevent := h.at_event (P := fun pre e => ∀ now succeeded, e = .attempted now succeeded →
    ∀ time, LastFailed pre time → time + publishRetryInterval ≤ now) ?_
  · intro pre now succeeded post heq
    exact hevent pre _ post heq now succeeded rfl
  intro tr evs s t prior hstep pre e post hevs now succeeded he time hfailed
  subst he
  have hmem : .attempted now succeeded ∈ evs := by
    rw [hevs]
    exact List.mem_append_right pre List.mem_cons_self
  cases hstep with
  | capture input =>
    obtain ⟨hpre, hdue⟩ :=
      (Audio.captured publishRetryInterval s input.1 input.2.1 input.2.2).attempted_first hevs
    rw [hpre, List.append_nil] at hfailed
    rw [← nextPublishAttempt_eq prior time hfailed]
    exact hdue
  | close =>
    rcases close_events s _ hmem with heq | heq
    · cases heq
    · cases heq
  | finishClose _ =>
    rcases finishClose_events s _ _ hmem with ⟨_, heq⟩ | heq
    · cases heq
    · cases heq

/-- **A publisher owns one track at most.**  A frame goes into a source of its size, and a publish
that failed is not tried again before the interval has passed. -/
theorem trackPublishers_own_one :
    (∀ tr s, videoPublisher.Trace tr s → OwnsOne tr s ∧
      ∀ frame source, .captured frame source ∈ tr → frame = source) ∧
    ∀ publishRetryInterval tr s, (audioPublisher publishRetryInterval).Trace tr s → OwnsOne tr s ∧
      ∀ pre now succeeded post, tr = pre ++ .attempted now succeeded :: post →
        ∀ time, LastFailed pre time → time + publishRetryInterval ≤ now := by
  constructor
  · intro tr s h
    exact ⟨ownsOne Video.capturesSafely h, captured_same_size h⟩
  · intro publishRetryInterval tr s h
    exact ⟨ownsOne (Audio.capturesSafely publishRetryInterval) h, attempted_after_interval h⟩

/-- A camera is turned by a quarter, and the publisher closed.  A microphone is published at the
second attempt. -/
theorem trackPublishers_own_one_turned :
    (∃ tr s, videoPublisher.Trace tr s ∧
      tr = [.published 0, .captured ⟨640, 480⟩ ⟨640, 480⟩, .unpublished 0, .published 1,
        .captured ⟨480, 640⟩ ⟨480, 640⟩, .closing, .unpublished 1, .closeReturned] ∧
      OwnsOne tr s) ∧
    ∃ tr s, (audioPublisher 1000).Trace tr s ∧
      tr = [.attempted 5 false, .attempted 1005 true, .published 0,
        .captured ⟨48000, 1⟩ ⟨48000, 1⟩] ∧
      OwnsOne tr s := by
  constructor
  · have first := Machine.Trace.step (M := videoPublisher) (.start rfl)
      (.capture .initial (⟨true, true⟩, ⟨640, 480⟩))
    have turned := first.step (.capture _ (⟨true, true⟩, ⟨480, 640⟩))
    have closing := turned.step (.close _)
    have taken : some 1 ∈ [some 1] := List.mem_cons_self
    have closed := closing.step (.finishClose taken)
    exact ⟨_, _, closed, by decide, (trackPublishers_own_one.1 _ _ closed).1⟩
  · have failed := Machine.Trace.step (M := audioPublisher 1000) (.start rfl)
      (.capture .initial (⟨true, false⟩, ⟨48000, 1⟩, 5))
    have early := failed.step (.capture _ (⟨true, true⟩, ⟨48000, 1⟩, 1004))
    have published := early.step (.capture _ (⟨true, true⟩, ⟨48000, 1⟩, 1005))
    exact ⟨_, _, published, by decide, (trackPublishers_own_one.2 1000 _ _ published).1⟩

/-- A second `close` returns while the first one has yet to unpublish the track. -/
theorem not_unpublished_at_close :
    ¬ ∀ tr s, videoPublisher.Trace tr s → .closeReturned ∈ tr → s.published = [] := by
  intro h
  have published := Machine.Trace.step (M := videoPublisher) (.start rfl)
    (.capture .initial (⟨true, true⟩, ⟨640, 480⟩))
  have closing := published.step (.close _)
  have again := closing.step (.close _)
  have hnone := h _ _ again (by decide)
  revert hnone
  decide

end LivekitBridge
