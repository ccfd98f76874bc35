import LivekitBridge.Lib.Assoc
import LivekitBridge.Lib.Machine
import LivekitBridge.Lib.Threads
import Mathlib.Logic.Function.Basic

/-!
# Media tracks and the room they are in

`publishVideoTrack`, `publishAudioTrack` and their counterparts in `room_connection.cpp`.  A track
that was published is entered in a map, by the address of the track, with the generation of the
room; to unpublish it the entry is taken out, and the SDK is called only if the room is still of
that generation.  The methods are written twice, for video and for audio, and here once, over
`MediaKind`; the two maps are those of the source.

The mutex is released while the SDK is called, so a call is where it is (`MediaCall`), and the room
may be detached and another one activated between any two of its parts.  A room is known by the
generation in which it was activated.  Tracks that live have different addresses, and the address
of a track that is gone may be used again.

`detachRoom` clears the map of the video tracks and not that of the audio tracks.  And what is
entered outlives the track: if a track that could not be entered has the address of an entry, that
is taken for its own when the track is unpublished.  Of the runs in which neither happens
(`tidyMedia`, `TakesOwn`) `mediaTracks_of_tidy` says that all is well.
-/

namespace LivekitBridge

open Lib

/-- Video or audio. -/
inductive MediaKind
  | video
  | audio
deriving DecidableEq, Repr

/-- A `LocalVideoTrack` or `LocalAudioTrack`, by a number of its own, and the address of it. -/
structure MediaTrack where
  number : Nat
  kind : MediaKind
  address : Nat
deriving DecidableEq, Repr

/-- The members of the connection that the methods share.  `room` is the generation in which the
room was activated. -/
structure MediaRoom where
  room : Option Nat
  roomGeneration : Nat
  trackRoomGenerations : AList fun _ : Nat => Nat
  audioTrackRoomGenerations : AList fun _ : Nat => Nat

/-- `ParticipantRef`: the room whose participant it is, and the generation that was read with it. -/
structure ParticipantRef where
  room : Nat
  roomGeneration : Nat
deriving DecidableEq, Repr

namespace MediaRoom

/-- The map for tracks of the kind. -/
def generations (m : MediaRoom) : MediaKind → AList fun _ : Nat => Nat
  | .video => m.trackRoomGenerations
  | .audio => m.audioTrackRoomGenerations

def setGenerations (m : MediaRoom) (kind : MediaKind) (map : AList fun _ : Nat => Nat) :
    MediaRoom :=
  match kind with
  | .video => { m with trackRoomGenerations := map }
  | .audio => { m with audioTrackRoomGenerations := map }

/-- `participantRef`; there is no participant without a room, when the state is Disconnected, or
when the SDK has none (the last two are `available`). -/
def participantRef (m : MediaRoom) (available : Bool) : Option ParticipantRef :=
  match m.room with
  | none => none
  | some room => if available then some ⟨room, m.roomGeneration⟩ else none

/-- `recordTrackIfCurrent` and `recordAudioTrackIfCurrent`. -/
def recordIfCurrent (kind : MediaKind) (m : MediaRoom) (address roomGeneration : Nat) : MediaRoom :=
  if roomGeneration ≠ m.roomGeneration then m
  else m.setGenerations kind ((m.generations kind).insert address roomGeneration)

def recordTrackIfCurrent : MediaRoom → Nat → Nat → MediaRoom := recordIfCurrent .video

def recordAudioTrackIfCurrent : MediaRoom → Nat → Nat → MediaRoom := recordIfCurrent .audio

/-- The section of `unpublishVideoTrackIfCurrent` and `unpublishAudioTrackIfCurrent`: the
generation that was entered, and the map without it. -/
def takeEntry (kind : MediaKind) (m : MediaRoom) (address : Nat) : Option (Nat × MediaRoom) :=
  match ((m.generations kind).lookup address : Option Nat) with
  | none => none
  | some roomGeneration =>
    some (roomGeneration, m.setGenerations kind ((m.generations kind).erase address))

def activateRoom (m : MediaRoom) : MediaRoom :=
  { m with roomGeneration := m.roomGeneration + 1, room := some (m.roomGeneration + 1) }

def detachRoom (m : MediaRoom) : MediaRoom :=
  { m with
    room := none
    roomGeneration := if m.room.isSome then m.roomGeneration + 1 else m.roomGeneration
    trackRoomGenerations := ∅ }

end MediaRoom

/-- Where a call is. -/
inductive MediaCall
  | idle
  /-- publishing, with a participant -/
  | referenced (kind : MediaKind) (ref : ParticipantRef)
  /-- before the SDK's `publishTrack` -/
  | publishing (track : MediaTrack) (ref : ParticipantRef)
  /-- before `recordTrackIfCurrent` -/
  | recording (track : MediaTrack) (ref : ParticipantRef)
  /-- before the section that takes the entry out -/
  | unpublishing (track : MediaTrack)
  /-- with the generation of the entry -/
  | took (track : MediaTrack) (roomGeneration : Nat)
  /-- before the SDK's `unpublishTrack`, on the participant of the room -/
  | leaving (track : MediaTrack) (room : Nat)
deriving DecidableEq, Repr

/-- What is seen of a run; `stale` is a track that was not entered, `taken` one for which an entry
was taken out. -/
inductive MediaEvent
  | published (track : MediaTrack) (room : Nat)
  | recorded (track : MediaTrack) (roomGeneration : Nat)
  | stale (track : MediaTrack)
  | taken (track : MediaTrack)
  | unpublished (track : MediaTrack) (room : Nat)
  | detached
deriving DecidableEq, Repr

/-- The connection, the calls of the threads, and the tracks that callers have. -/
structure MediaSystem where
  room : MediaRoom
  calls : ThreadId → MediaCall
  live : List MediaTrack
  created : Nat

/-- The thread goes on as `call`. -/
def MediaSystem.setCall (s : MediaSystem) (thread : ThreadId) (call : MediaCall) : MediaSystem :=
  { s with calls := Function.update s.calls thread call }

def MediaCall.publishes : MediaCall → Option MediaTrack
  | .publishing track _ => some track
  | .recording track _ => some track
  | _ => none

def MediaCall.unpublishes : MediaCall → Option MediaTrack
  | .unpublishing track => some track
  | .took track _ => some track
  | .leaving track _ => some track
  | _ => none

/-- Callers have the track, or a call is publishing it. -/
def MediaSystem.Lives (s : MediaSystem) (track : MediaTrack) : Prop :=
  track ∈ s.live ∨ ∃ thread, (s.calls thread).publishes = some track

/-- One section or one call of the SDK. -/
inductive MediaStep : MediaSystem → List MediaEvent → MediaSystem → Prop
  | refer {s : MediaSystem} {thread : ThreadId} {kind : MediaKind} {available : Bool}
      {ref : ParticipantRef} : s.calls thread = .idle →
      s.room.participantRef available = some ref →
      MediaStep s [] (s.setCall thread (.referenced kind ref))
  | create {s : MediaSystem} {thread : ThreadId} {kind : MediaKind} {ref : ParticipantRef}
      {address : Nat} : s.calls thread = .referenced kind ref →
      (∀ track, s.Lives track → track.address ≠ address) →
      MediaStep s []
        { s.setCall thread (.publishing ⟨s.created, kind, address⟩ ref) with
          created := s.created + 1 }
  | createFailed {s : MediaSystem} {thread : ThreadId} {kind : MediaKind} {ref : ParticipantRef} :
      s.calls thread = .referenced kind ref → MediaStep s [] (s.setCall thread .idle)
  | publishTrack {s : MediaSystem} {thread : ThreadId} {track : MediaTrack} {ref : ParticipantRef} :
      s.calls thread = .publishing track ref →
      MediaStep s [.published track ref.room] (s.setCall thread (.recording track ref))
  | publishFailed {s : MediaSystem} {thread : ThreadId} {track : MediaTrack}
      {ref : ParticipantRef} : s.calls thread = .publishing track ref →
      MediaStep s [] (s.setCall thread .idle)
  | record {s : MediaSystem} {thread : ThreadId} {track : MediaTrack} {ref : ParticipantRef} :
      s.calls thread = .recording track ref →
      MediaStep s
        (if ref.roomGeneration ≠ s.room.roomGeneration then [.stale track]
          else [.recorded track ref.roomGeneration])
        { s.setCall thread .idle with
          room := s.room.recordIfCurrent track.kind track.address ref.roomGeneration
          live := track :: s.live }
  | unpublish {s : MediaSystem} {thread : ThreadId} {track : MediaTrack} :
      s.calls thread = .idle → track ∈ s.live → MediaStep s [] (s.setCall thread (.unpublishing track))
  | notEntered {s : MediaSystem} {thread : ThreadId} {track : MediaTrack} :
      s.calls thread = .unpublishing track →
      s.room.takeEntry track.kind track.address = none → MediaStep s [] (s.setCall thread .idle)
  | take {s : MediaSystem} {thread : ThreadId} {track : MediaTrack} {roomGeneration : Nat}
      {room : MediaRoom} : s.calls thread = .unpublishing track →
      s.room.takeEntry track.kind track.address = some (roomGeneration, room) →
      MediaStep s [.taken track] { s.setCall thread (.took track roomGeneration) with room := room }
  /-- No publication, no participant, or another generation. -/
  | giveUp {s : MediaSystem} {thread : ThreadId} {track : MediaTrack} {roomGeneration : Nat} :
      s.calls thread = .took track roomGeneration → MediaStep s [] (s.setCall thread .idle)
  | leave {s : MediaSystem} {thread : ThreadId} {track : MediaTrack} {roomGeneration : Nat}
      {available : Bool} {ref : ParticipantRef} : s.calls thread = .took track roomGeneration →
      s.room.participantRef available = some ref → ref.roomGeneration = roomGeneration →
      MediaStep s [] (s.setCall thread (.leaving track ref.room))
  | unpublishTrack {s : MediaSystem} {thread : ThreadId} {track : MediaTrack} {room : Nat} :
      s.calls thread = .leaving track room →
      MediaStep s [.unpublished track room] (s.setCall thread .idle)
  | activateRoom {s : MediaSystem} : s.room.room = none →
      MediaStep s [] { s with room := s.room.activateRoom }
  | detachRoom {s : MediaSystem} : MediaStep s [.detached] { s with room := s.room.detachRoom }
  /-- The last caller lets the track go. -/
  | drop {s : MediaSystem} {track : MediaTrack} :
      (∀ thread, (s.calls thread).unpublishes ≠ some track) →
      MediaStep s [] { s with live := s.live.erase track }

/-- A connection that was never connected. -/
def MediaSystem.initial : MediaSystem :=
  ⟨⟨none, 0, ∅, ∅⟩, fun _ => .idle, [], 0⟩

/-- Every order of the steps. -/
def media : Machine MediaSystem MediaEvent where
  start s := s = .initial
  step := MediaStep

/-- A room is detached only without audio tracks that are entered. -/
def Tidy (s : MediaSystem) : MediaEvent → Prop
  | .detached => s.room.audioTrackRoomGenerations = ∅
  | _ => True

/-- The runs whose steps are all tidy. -/
def tidyMedia : Machine MediaSystem MediaEvent where
  start s := s = .initial
  step s evs t := MediaStep s evs t ∧ ∀ e ∈ evs, Tidy s e

/-- A track that was not entered is not unpublished while its map has an entry at its address. -/
def TakesOwn (history : List MediaEvent) : MediaEvent → Prop
  | .taken track => .stale track ∉ history
  | _ => True

/-! ### What is to hold -/

/-- The SDK is asked to unpublish a track only from the room where it was published, and once for
each time it was entered, which is once. -/
def Rightly (history : List MediaEvent) : MediaEvent → Prop
  | .unpublished track room =>
    .published track room ∈ history ∧ .recorded track room ∈ history ∧
      ∀ room', .unpublished track room' ∉ history
  | .recorded track _ => ∀ roomGeneration, .recorded track roomGeneration ∉ history
  | _ => True

/-- What is entered carries the generation of the room, and without a room nothing is. -/
structure FollowsRoom (m : MediaRoom) : Prop where
  current : ∀ kind address roomGeneration,
    (m.generations kind).lookup address = some roomGeneration → roomGeneration = m.roomGeneration
  detached : m.room = none → m.trackRoomGenerations = ∅ ∧ m.audioTrackRoomGenerations = ∅

/-! ### The invariant -/

/-- The track that a call alone has to do with: it is publishing it, or has taken its entry. -/
def MediaCall.owns : MediaCall → Option MediaTrack
  | .publishing track _ => some track
  | .recording track _ => some track
  | .took track _ => some track
  | .leaving track _ => some track
  | _ => none

/-- A participant that was referred to is that of its generation, which is the current one only
while its room is attached. -/
structure Referred (m : MediaRoom) (ref : ParticipantRef) : Prop where
  room : ref.room = ref.roomGeneration
  past : ref.roomGeneration ≤ m.roomGeneration
  attached : ref.roomGeneration = m.roomGeneration → m.room = some m.roomGeneration

/-- The track was entered in the room where it was published, and not unpublished since. -/
structure Due (tr : List MediaEvent) (track : MediaTrack) (room : Nat) : Prop where
  published : .published track room ∈ tr
  recorded : .recorded track room ∈ tr
  unpublished : ∀ room', .unpublished track room' ∉ tr

/-- The track is new. -/
structure Unborn (tr : List MediaEvent) (s : MediaSystem) (track : MediaTrack) : Prop where
  live : track ∉ s.live
  recorded : ∀ roomGeneration, .recorded track roomGeneration ∉ tr
  unpublished : ∀ room, .unpublished track room ∉ tr

/-- What is known of a call, by where it is. -/
def Knowing (tr : List MediaEvent) (s : MediaSystem) : MediaCall → Prop
  | .idle => True
  | .referenced _ ref => Referred s.room ref
  | .publishing track ref => Referred s.room ref ∧ Unborn tr s track
  | .recording track ref =>
    Referred s.room ref ∧ Unborn tr s track ∧ .published track ref.room ∈ tr
  | .unpublishing track => track ∈ s.live
  | .took track roomGeneration =>
    track ∈ s.live ∧ Due tr track roomGeneration ∧ track.address ∉ s.room.generations track.kind
  | .leaving track room =>
    track ∈ s.live ∧ Due tr track room ∧ track.address ∉ s.room.generations track.kind

def MediaEvent.track : MediaEvent → Option MediaTrack
  | .published track _ => some track
  | .recorded track _ => some track
  | .stale track => some track
  | .taken track => some track
  | .unpublished track _ => some track
  | .detached => none

/-- **What holds of a tidy run.** -/
structure Bookkept (tr : List MediaEvent) (s : MediaSystem) : Prop where
  attached : ∀ room, s.room.room = some room → room = s.room.roomGeneration
  current : ∀ kind address roomGeneration,
    (s.room.generations kind).lookup address = some roomGeneration →
      s.room.room = some roomGeneration
  entered : ∀ track ∈ s.live, .stale track ∉ tr → ∀ roomGeneration,
    (s.room.generations track.kind).lookup track.address = some roomGeneration →
      Due tr track roomGeneration
  distinct : ∀ track track', s.Lives track → s.Lives track' → track.address = track'.address →
    track = track'
  numbered : (∀ track, s.Lives track → track.number < s.created) ∧
    ∀ e ∈ tr, ∀ track, e.track = some track → track.number < s.created
  exclusive : ∀ thread thread' track, (s.calls thread).owns = some track →
    (s.calls thread').owns = some track → thread = thread'
  knowing : ∀ thread, Knowing tr s (s.calls thread)

section Preservation

variable {tr : List MediaEvent} {s : MediaSystem} {thread : ThreadId} {call : MediaCall}

@[simp] theorem MediaSystem.setCall_room : (s.setCall thread call).room = s.room := rfl

@[simp] theorem MediaSystem.setCall_live : (s.setCall thread call).live = s.live := rfl

@[simp] theorem MediaSystem.setCall_created : (s.setCall thread call).created = s.created := rfl

@[simp] theorem MediaSystem.setCall_same : (s.setCall thread call).calls thread = call :=
  Function.update_self ..

theorem MediaSystem.setCall_other {other : ThreadId} (h : other ≠ thread) :
    (s.setCall thread call).calls other = s.calls other := Function.update_of_ne h ..

theorem exclusive_setCall
    (h : ∀ thread thread' track, (s.calls thread).owns = some track →
      (s.calls thread').owns = some track → thread = thread')
    (howns : ∀ track, call.owns = some track → ∀ other, other ≠ thread →
      (s.calls other).owns ≠ some track) :
    ∀ thread₁ thread₂ track, ((s.setCall thread call).calls thread₁).owns = some track →
      ((s.setCall thread call).calls thread₂).owns = some track → thread₁ = thread₂ := by
  intro thread₁ thread₂ track h₁ h₂
  by_cases ht₁ : thread₁ = thread
  · by_cases ht₂ : thread₂ = thread
    · rw [ht₁, ht₂]
    · rw [ht₁, MediaSystem.setCall_same] at h₁
      rw [MediaSystem.setCall_other ht₂] at h₂
      exact absurd h₂ (howns track h₁ thread₂ ht₂)
  · rw [MediaSystem.setCall_other ht₁] at h₁
    by_cases ht₂ : thread₂ = thread
    · rw [ht₂, MediaSystem.setCall_same] at h₂
      exact absurd h₁ (howns track h₂ thread₁ ht₁)
    · rw [MediaSystem.setCall_other ht₂] at h₂
      exact h thread₁ thread₂ track h₁ h₂

theorem Bookkept.owns_apart (h : Bookkept tr s) {track : MediaTrack}
    (howns : (s.calls thread).owns = some track) :
    ∀ other, other ≠ thread → (s.calls other).owns ≠ some track := by
  intro other hne hother
  exact hne (h.exclusive other thread track hother howns)

theorem lives_setCall {track : MediaTrack} (h : (s.setCall thread call).Lives track) :
    s.Lives track ∨ call.publishes = some track := by
  rcases h with hlive | ⟨other, hother⟩
  · exact .inl (.inl hlive)
  · by_cases ht : other = thread
    · rw [ht, MediaSystem.setCall_same] at hother
      exact .inr hother
    · rw [MediaSystem.setCall_other ht] at hother
      exact .inl (.inr ⟨other, hother⟩)

theorem Bookkept.lives_of_owns (h : Bookkept tr s) {track : MediaTrack}
    (howns : (s.calls thread).owns = some track) : s.Lives track := by
  have hknowing := h.knowing thread
  cases hc : s.calls thread with
  | publishing track' ref =>
    rw [hc] at howns
    exact .inr ⟨thread, by rw [hc]; exact howns⟩
  | recording track' ref =>
    rw [hc] at howns
    exact .inr ⟨thread, by rw [hc]; exact howns⟩
  | took track' g =>
    rw [hc] at howns hknowing
    obtain rfl := Option.some.inj howns
    exact .inl hknowing.1
  | leaving track' room =>
    rw [hc] at howns hknowing
    obtain rfl := Option.some.inj howns
    exact .inl hknowing.1
  | _ =>
    rw [hc] at howns
    cases howns

/-- The history goes on without a record or an unpublishing that concerns the call, and the rest is
as it was for the call. -/
structure Undisturbed (tr : List MediaEvent) (s : MediaSystem) (tr' : List MediaEvent)
    (s' : MediaSystem) (call : MediaCall) : Prop where
  referred : ∀ ref, Referred s.room ref → Referred s'.room ref
  history : ∀ e ∈ tr, e ∈ tr'
  unborn : ∀ track, call.publishes = some track → (track ∈ s'.live → track ∈ s.live) ∧
    ∀ g, .recorded track g ∈ tr' → .recorded track g ∈ tr
  alive : ∀ track, call.unpublishes = some track → track ∈ s.live → track ∈ s'.live
  due : ∀ track, call.owns = some track →
    (track.address ∈ s'.room.generations track.kind →
      track.address ∈ s.room.generations track.kind) ∧
    ∀ room, .unpublished track room ∈ tr' → .unpublished track room ∈ tr

theorem Due.mono {tr' : List MediaEvent} {track : MediaTrack} {room : Nat} (h : Due tr track room)
    (hhistory : ∀ e ∈ tr, e ∈ tr')
    (hunpublished : ∀ room, .unpublished track room ∈ tr' → .unpublished track room ∈ tr) :
    Due tr' track room := by
  refine ⟨hhistory _ h.published, hhistory _ h.recorded, ?_⟩
  intro room' hmem
  exact h.unpublished room' (hunpublished room' hmem)

theorem MediaCall.owns_of_publishes {track : MediaTrack} (h : call.publishes = some track) :
    call.owns = some track := by
  cases call with
  | publishing track' ref => exact h
  | recording track' ref => exact h
  | _ => cases h

theorem Knowing.mono {tr' : List MediaEvent} {s' : MediaSystem} (h : Knowing tr s call)
    (hsame : Undisturbed tr s tr' s' call) : Knowing tr' s' call := by
  have hunborn : ∀ track, call.publishes = some track → Unborn tr s track → Unborn tr' s' track := by
    intro track hpublishes hunborn
    obtain ⟨hlive, hrecorded⟩ := hsame.unborn track hpublishes
    obtain ⟨_, hunpublished⟩ := hsame.due track (MediaCall.owns_of_publishes hpublishes)
    exact ⟨fun hmem => hunborn.live (hlive hmem),
      fun g hmem => hunborn.recorded g (hrecorded g hmem),
      fun room hmem => hunborn.unpublished room (hunpublished room hmem)⟩
  have hdue : ∀ track room, call.owns = some track → call.unpublishes = some track →
      track ∈ s.live ∧ Due tr track room ∧ track.address ∉ s.room.generations track.kind →
      track ∈ s'.live ∧ Due tr' track room ∧ track.address ∉ s'.room.generations track.kind := by
    intro track room howns hunpublishes hknown
    obtain ⟨haddress, hunpublished⟩ := hsame.due track howns
    exact ⟨hsame.alive track hunpublishes hknown.1, hknown.2.1.mono hsame.history hunpublished,
      fun hmem => hknown.2.2 (haddress hmem)⟩
  cases call with
  | idle => exact trivial
  | referenced kind ref => exact hsame.referred ref h
  | publishing track ref => exact ⟨hsame.referred ref h.1, hunborn track rfl h.2⟩
  | recording track ref =>
    exact ⟨hsame.referred ref h.1, hunborn track rfl h.2.1, hsame.history _ h.2.2⟩
  | unpublishing track => exact hsame.alive track rfl h
  | took track roomGeneration => exact hdue track roomGeneration rfl rfl h
  | leaving track room => exact hdue track room rfl rfl h

theorem knowing_update {tr' : List MediaEvent} {s' : MediaSystem} (thread : ThreadId)
    (call : MediaCall) (h : ∀ thread, Knowing tr s (s.calls thread))
    (hcalls : s'.calls = (s.setCall thread call).calls) (hcall : Knowing tr' s' call)
    (hsame : ∀ other, other ≠ thread → Undisturbed tr s tr' s' (s.calls other)) :
    ∀ other, Knowing tr' s' (s'.calls other) := by
  intro other
  rw [hcalls]
  by_cases ht : other = thread
  · rw [ht, MediaSystem.setCall_same]
    exact hcall
  · rw [MediaSystem.setCall_other ht]
    exact (h other).mono (hsame other ht)

/-- **A step that moves a call on**, and may publish a track, or unpublish one whose entry the call
has taken. -/
theorem Bookkept.emit {evs : List MediaEvent} (h : Bookkept tr s)
    (hcall : Knowing (tr ++ evs) s call)
    (howns : ∀ track, call.owns = some track → (s.calls thread).owns = some track)
    (hlives : ∀ track, (s.setCall thread call).Lives track → s.Lives track)
    (hnumbered : ∀ e ∈ evs, ∀ track, e.track = some track → track.number < s.created)
    (hrecorded : ∀ track g, .recorded track g ∉ evs)
    (hunpublished : ∀ track room, .unpublished track room ∈ evs →
      (s.calls thread).owns = some track ∧ track.address ∉ s.room.generations track.kind) :
    Bookkept (tr ++ evs) (s.setCall thread call) where
  attached := h.attached
  current := h.current
  entered := by
    intro track hlive hfresh g hl
    apply (h.entered track hlive (fun hmem => hfresh (List.mem_append_left _ hmem)) g hl).mono
      (fun _ he => List.mem_append_left _ he)
    intro room hmem
    rcases List.mem_append.mp hmem with hold | hnew
    · exact hold
    · exact absurd (AList.mem_of_lookup hl) (hunpublished track room hnew).2
  distinct track track' hl hl' := h.distinct track track' (hlives track hl) (hlives track' hl')
  numbered := by
    refine ⟨fun track hl => h.numbered.1 track (hlives track hl), ?_⟩
    intro e he
    rcases List.mem_append.mp he with hold | hnew
    · exact h.numbered.2 e hold
    · exact hnumbered e hnew
  exclusive := by
    apply exclusive_setCall h.exclusive
    intro track htrack
    exact h.owns_apart (howns track htrack)
  knowing := by
    have hsame : ∀ other, other ≠ thread →
        Undisturbed tr s (tr ++ evs) (s.setCall thread call) (s.calls other) := by
      intro other hne
      refine ⟨fun _ href => href, fun _ he => List.mem_append_left _ he, ?_,
        fun _ _ hlive => hlive, ?_⟩
      · intro track _
        refine ⟨fun hlive => hlive, ?_⟩
        intro g hmem
        exact (List.mem_append.mp hmem).resolve_right (hrecorded track g)
      · intro track hother
        refine ⟨fun haddress => haddress, ?_⟩
        intro room hmem
        rcases List.mem_append.mp hmem with hold | hnew
        · exact hold
        · exact absurd hother (h.owns_apart (hunpublished track room hnew).1 other hne)
    apply knowing_update thread call h.knowing rfl _ hsame
    exact hcall.mono ⟨fun _ href => href, fun _ he => he,
      fun _ _ => ⟨fun hlive => hlive, fun _ hmem => hmem⟩, fun _ _ hlive => hlive,
      fun _ _ => ⟨fun haddress => haddress, fun _ hmem => hmem⟩⟩

/-- A call that is publishing the same track, or none, keeps no other alive. -/
theorem lives_of_publishes {track : MediaTrack}
    (hpublishes : ∀ track, call.publishes = some track → (s.calls thread).publishes = some track)
    (h : (s.setCall thread call).Lives track) : s.Lives track := by
  rcases lives_setCall h with hlives | hnew
  · exact hlives
  · exact .inr ⟨thread, hpublishes track hnew⟩

/-- A step that only moves a call on. -/
theorem Bookkept.setCall (h : Bookkept tr s) (hcall : Knowing tr s call)
    (howns : ∀ track, call.owns = some track → (s.calls thread).owns = some track)
    (hpublishes : ∀ track, call.publishes = some track →
      (s.calls thread).publishes = some track) :
    Bookkept (tr ++ []) (s.setCall thread call) := by
  rw [← List.append_nil tr] at hcall
  apply h.emit hcall howns (fun _ hlives => lives_of_publishes hpublishes hlives)
  · intro e he
    cases he
  · intro track g he
    cases he
  · intro track room he
    cases he

/-- A step after which the call has no track. -/
theorem Bookkept.setCall_of_owns_none (h : Bookkept tr s) (hcall : Knowing tr s call)
    (hnone : call.owns = none) : Bookkept (tr ++ []) (s.setCall thread call) := by
  have howns : ∀ track, call.owns ≠ some track := by
    intro track hsome
    rw [hnone] at hsome
    cases hsome
  apply h.setCall hcall
  · intro track hsome
    exact absurd hsome (howns track)
  · intro track hpublishes
    exact absurd (MediaCall.owns_of_publishes hpublishes) (howns track)

theorem referred_participantRef {m : MediaRoom} {available : Bool} {ref : ParticipantRef}
    (hattached : ∀ room, m.room = some room → room = m.roomGeneration)
    (h : m.participantRef available = some ref) : Referred m ref := by
  rw [MediaRoom.participantRef] at h
  cases hroom : m.room with
  | none =>
    rw [hroom] at h
    cases h
  | some room =>
    rw [hroom] at h
    have heq := hattached room hroom
    cases available with
    | false => cases h
    | true =>
      obtain rfl := Option.some.inj h
      refine ⟨heq, le_rfl, ?_⟩
      intro _
      rw [hroom, heq]

/-- A new track. -/
theorem bookkept_create (h : Bookkept tr s) {kind : MediaKind} {ref : ParticipantRef}
    {address : Nat} (hcall : s.calls thread = .referenced kind ref)
    (hfree : ∀ track, s.Lives track → track.address ≠ address) :
    Bookkept (tr ++ []) { s.setCall thread (.publishing ⟨s.created, kind, address⟩ ref) with
      created := s.created + 1 } := by
  rw [List.append_nil]
  have hnew : ∀ track : MediaTrack, track.number < s.created →
      track ≠ ⟨s.created, kind, address⟩ := by
    intro track hless heq
    rw [heq] at hless
    exact Nat.lt_irrefl _ hless
  have hlives : ∀ track, (s.setCall thread (.publishing ⟨s.created, kind, address⟩ ref)).Lives track →
      s.Lives track ∨ track = ⟨s.created, kind, address⟩ := by
    intro track hl
    exact (lives_setCall hl).imp_right fun heq => (Option.some.inj heq).symm
  refine ⟨h.attached, h.current, h.entered, ?_, ?_, ?_, ?_⟩
  · intro track track' hl hl' heq
    rcases hlives track hl with hl | rfl
    · rcases hlives track' hl' with hl' | rfl
      · exact h.distinct track track' hl hl' heq
      · exact absurd heq (hfree track hl)
    · rcases hlives track' hl' with hl' | rfl
      · exact absurd heq.symm (hfree track' hl')
      · rfl
  · constructor
    · intro track hl
      rcases hlives track hl with hl | rfl
      · exact Nat.lt_succ_of_lt (h.numbered.1 track hl)
      · exact Nat.lt_succ_self _
    · intro e he track htrack
      exact Nat.lt_succ_of_lt (h.numbered.2 e he track htrack)
  · apply exclusive_setCall h.exclusive
    intro track htrack other _ hother
    exact hnew track (h.numbered.1 track (h.lives_of_owns hother)) (Option.some.inj htrack).symm
  · have hreferred : Referred s.room ref := by
      have hknowing := h.knowing thread
      rw [hcall] at hknowing
      exact hknowing
    refine knowing_update thread (.publishing ⟨s.created, kind, address⟩ ref) h.knowing ?_ ?_ ?_
    · rfl
    · refine ⟨hreferred, ?_, ?_, ?_⟩
      · intro hlive
        exact hnew _ (h.numbered.1 _ (.inl hlive)) rfl
      · intro g hmem
        exact hnew _ (h.numbered.2 _ hmem _ rfl) rfl
      · intro room hmem
        exact hnew _ (h.numbered.2 _ hmem _ rfl) rfl
    · intro other _
      exact ⟨fun _ href => href, fun _ he => he,
        fun _ _ => ⟨fun hlive => hlive, fun _ hmem => hmem⟩, fun _ _ hlive => hlive,
        fun _ _ => ⟨fun haddress => haddress, fun _ hmem => hmem⟩⟩

/-! The maps. -/

@[simp] theorem MediaRoom.setGenerations_room (m : MediaRoom) (kind : MediaKind)
    (map : AList fun _ : Nat => Nat) : (m.setGenerations kind map).room = m.room := by
  cases kind <;> rfl

@[simp] theorem MediaRoom.setGenerations_roomGeneration (m : MediaRoom) (kind : MediaKind)
    (map : AList fun _ : Nat => Nat) :
    (m.setGenerations kind map).roomGeneration = m.roomGeneration := by
  cases kind <;> rfl

theorem MediaRoom.generations_setGenerations (m : MediaRoom) (kind kind' : MediaKind)
    (map : AList fun _ : Nat => Nat) :
    (m.setGenerations kind map).generations kind' =
      if kind' = kind then map else m.generations kind' := by
  cases kind <;> cases kind' <;> rfl

theorem Referred.congr {m m' : MediaRoom} {ref : ParticipantRef} (h : Referred m ref)
    (hroom : m'.room = m.room) (hgeneration : m'.roomGeneration = m.roomGeneration) :
    Referred m' ref := by
  refine ⟨h.room, ?_, ?_⟩
  · rw [hgeneration]
    exact h.past
  · rw [hgeneration, hroom]
    exact h.attached

/-- A track is published: it is entered, or not. -/
theorem Bookkept.returns {m : MediaRoom} {e : MediaEvent} {track : MediaTrack}
    {ref : ParticipantRef} (h : Bookkept tr s) (hcall : s.calls thread = .recording track ref)
    (hm : m.room = s.room.room ∧ m.roomGeneration = s.room.roomGeneration)
    (hother : ∀ kind address g, (m.generations kind).lookup address = some g →
      (s.room.generations kind).lookup address = some g ∨
        (kind = track.kind ∧ address = track.address ∧ s.room.room = some g))
    (hself : e = .stale track ∨ ∀ g, (m.generations track.kind).lookup track.address = some g →
      Due (tr ++ [e]) track g)
    (htrack : e.track = some track) (hunpublished : ∀ track room, e ≠ .unpublished track room) :
    Bookkept (tr ++ [e]) { s.setCall thread .idle with room := m, live := track :: s.live } := by
  have howns : (s.calls thread).owns = some track := by rw [hcall]; rfl
  obtain ⟨_, hunborn, _⟩ : Knowing tr s (.recording track ref) := hcall ▸ h.knowing thread
  have hlives : ∀ track', MediaSystem.Lives
      { s.setCall thread .idle with room := m, live := track :: s.live } track' →
      s.Lives track' := by
    intro track' hl
    rcases hl with hlive | hpublishes
    · rcases List.mem_cons.mp hlive with rfl | hlive
      · exact h.lives_of_owns howns
      · exact .inl hlive
    · exact lives_of_publishes (by simp [MediaCall.publishes]) (.inr hpublishes)
  have hhistory : ∀ e' ∈ tr, e' ∈ tr ++ [e] := fun _ he => List.mem_append_left _ he
  have hquiet : ∀ track' room, .unpublished track' room ∈ tr ++ [e] →
      .unpublished track' room ∈ tr := by
    intro track' room hmem
    rcases List.mem_append.mp hmem with hold | hnew
    · exact hold
    · exact absurd (List.mem_singleton.mp hnew).symm (hunpublished track' room)
  -- an entry at the address of another track that is there is an old one
  have hold : ∀ track', s.Lives track' → track' ≠ track → ∀ g,
      (m.generations track'.kind).lookup track'.address = some g →
      (s.room.generations track'.kind).lookup track'.address = some g := by
    intro track' hl hne g hlookup
    rcases hother _ _ g hlookup with hold | ⟨_, haddress, _⟩
    · exact hold
    · exact absurd (h.distinct track' track hl (h.lives_of_owns howns) haddress) hne
  refine ⟨?_, ?_, ?_, ?_, ?_, ?_, ?_⟩
  · intro room hroom
    exact (h.attached room (hm.1.symm.trans hroom)).trans hm.2.symm
  · intro kind address g hlookup
    refine hm.1.trans ?_
    rcases hother kind address g hlookup with hold | ⟨_, _, hroom⟩
    · exact h.current kind address g hold
    · exact hroom
  · intro track' hlive hfresh g hlookup
    rcases List.mem_cons.mp hlive with rfl | hlive
    · rcases hself with hstale | hself
      · rw [hstale] at hfresh
        exact absurd (by simp) hfresh
      · exact hself g hlookup
    · have hne : track' ≠ track := by
        intro heq
        rw [heq] at hlive
        exact hunborn.live hlive
      have hentry := hold track' (.inl hlive) hne g hlookup
      exact (h.entered track' hlive (fun hmem => hfresh (hhistory _ hmem)) g hentry).mono hhistory
        (hquiet track')
  · intro track₁ track₂ hl₁ hl₂
    exact h.distinct track₁ track₂ (hlives track₁ hl₁) (hlives track₂ hl₂)
  · refine ⟨fun track' hl => h.numbered.1 track' (hlives track' hl), ?_⟩
    intro e' he' track' htrack'
    rcases List.mem_append.mp he' with hold | hnew
    · exact h.numbered.2 e' hold track' htrack'
    · rw [List.mem_singleton.mp hnew, htrack, Option.some.injEq] at htrack'
      rw [← htrack']
      exact h.numbered.1 track (h.lives_of_owns howns)
  · apply exclusive_setCall h.exclusive
    intro track' hnone
    cases hnone
  · refine knowing_update thread .idle h.knowing ?_ ?_ ?_
    · rfl
    · exact trivial
    · intro other hne
      have hapart := h.owns_apart howns other hne
      refine ⟨?_, hhistory, ?_, fun _ _ hlive => List.mem_cons_of_mem _ hlive, ?_⟩
      · intro ref' href'
        exact href'.congr hm.1 hm.2
      · intro track' hpublishes
        have hne' : track' ≠ track := by
          intro heq
          rw [heq] at hpublishes
          exact hapart (MediaCall.owns_of_publishes hpublishes)
        constructor
        · intro hlive
          exact (List.mem_cons.mp hlive).resolve_left hne'
        · intro g hmem
          rcases List.mem_append.mp hmem with hold | hnew
          · exact hold
          · rw [← List.mem_singleton.mp hnew] at htrack
            exact absurd (Option.some.inj htrack) hne'
      · intro track' hother'
        refine ⟨?_, hquiet track'⟩
        intro haddress
        have hne' : track' ≠ track := by
          intro heq
          rw [heq] at hother'
          exact hapart hother'
        obtain ⟨g, hg⟩ := Option.isSome_iff_exists.mp (AList.lookup_isSome.mpr haddress)
        exact AList.mem_of_lookup (hold track' (h.lives_of_owns hother') hne' g hg)

theorem bookkept_record {track : MediaTrack} {ref : ParticipantRef} (h : Bookkept tr s)
    (hcall : s.calls thread = .recording track ref) :
    Bookkept (tr ++ if ref.roomGeneration ≠ s.room.roomGeneration then [.stale track]
        else [.recorded track ref.roomGeneration])
      { s.setCall thread .idle with
        room := s.room.recordIfCurrent track.kind track.address ref.roomGeneration
        live := track :: s.live } := by
  obtain ⟨hreferred, hunborn, hpublished⟩ : Knowing tr s (.recording track ref) :=
    hcall ▸ h.knowing thread
  by_cases hstale : ref.roomGeneration ≠ s.room.roomGeneration
  · rw [MediaRoom.recordIfCurrent, if_pos hstale, if_pos hstale]
    apply h.returns hcall ⟨rfl, rfl⟩
    · intro kind address g hlookup
      exact .inl hlookup
    · exact .inl rfl
    · rfl
    · intro track' room heq
      cases heq
  · rw [MediaRoom.recordIfCurrent, if_neg hstale, if_neg hstale]
    rw [not_not] at hstale
    have hlookup : ∀ kind address g,
        ((s.room.setGenerations track.kind ((s.room.generations track.kind).insert track.address
          ref.roomGeneration)).generations kind).lookup address = some g →
        (s.room.generations kind).lookup address = some g ∨
          (kind = track.kind ∧ address = track.address ∧ g = ref.roomGeneration) := by
      intro kind address g hg
      rw [MediaRoom.generations_setGenerations] at hg
      split at hg
      · rename_i hkind
        rw [AList.lookup_insert_eq_if] at hg
        split at hg
        · rename_i haddress
          exact .inr ⟨hkind, haddress, (Option.some.inj hg).symm⟩
        · rw [hkind]
          exact .inl hg
      · exact .inl hg
    apply h.returns hcall
    · simp
    · intro kind address g hg
      rcases hlookup kind address g hg with hold | ⟨hkind, haddress, heq⟩
      · exact .inl hold
      · right
        refine ⟨hkind, haddress, ?_⟩
        rw [heq, hstale]
        exact hreferred.attached hstale
    · right
      intro g hg
      have heq : g = ref.roomGeneration := by
        rw [MediaRoom.generations_setGenerations, if_pos rfl, AList.lookup_insert,
          Option.some.injEq] at hg
        exact hg.symm
      rw [heq]
      refine ⟨?_, by simp, ?_⟩
      · rw [← hreferred.room]
        exact List.mem_append_left _ hpublished
      · intro room hmem
        exact hunborn.unpublished room (by simpa using hmem)
    · rfl
    · intro track' room heq
      cases heq

theorem MediaRoom.takeEntry_eq_some {m m' : MediaRoom} {kind : MediaKind} {address g : Nat}
    (h : m.takeEntry kind address = some (g, m')) :
    (m.generations kind).lookup address = some g ∧
      m' = m.setGenerations kind ((m.generations kind).erase address) := by
  rw [takeEntry] at h
  cases hentry : ((m.generations kind).lookup address : Option Nat) with
  | none =>
    rw [hentry] at h
    cases h
  | some g' =>
    rw [hentry, Option.some.injEq, Prod.mk.injEq] at h
    obtain ⟨rfl, rfl⟩ := h
    exact ⟨rfl, rfl⟩

theorem MediaRoom.lookup_erased (m : MediaRoom) (kind kind' : MediaKind) (address address' : Nat) :
    ((m.setGenerations kind ((m.generations kind).erase address)).generations kind').lookup address' =
      if kind' = kind ∧ address' = address then none
      else (m.generations kind').lookup address' := by
  rw [generations_setGenerations]
  by_cases hkind : kind' = kind
  · rw [if_pos hkind, AList.lookup_erase_eq_if, hkind]
    simp
  · rw [if_neg hkind, if_neg fun hboth => hkind hboth.1]

/-- While its entry is there, a track that was returned is in the hands of no call. -/
theorem Bookkept.not_owns (h : Bookkept tr s) {track : MediaTrack} (hlive : track ∈ s.live)
    (haddress : track.address ∈ s.room.generations track.kind) (other : ThreadId) :
    (s.calls other).owns ≠ some track := by
  intro howns
  have hknowing := h.knowing other
  cases hc : s.calls other with
  | publishing track' ref =>
    rw [hc] at howns hknowing
    obtain rfl := Option.some.inj howns
    exact hknowing.2.live hlive
  | recording track' ref =>
    rw [hc] at howns hknowing
    obtain rfl := Option.some.inj howns
    exact hknowing.2.1.live hlive
  | took track' g =>
    rw [hc] at howns hknowing
    obtain rfl := Option.some.inj howns
    exact hknowing.2.2 haddress
  | leaving track' room =>
    rw [hc] at howns hknowing
    obtain rfl := Option.some.inj howns
    exact hknowing.2.2 haddress
  | _ =>
    rw [hc] at howns
    cases howns

theorem bookkept_take {track : MediaTrack} {g : Nat} {m : MediaRoom} (h : Bookkept tr s)
    (hcall : s.calls thread = .unpublishing track)
    (htake : s.room.takeEntry track.kind track.address = some (g, m)) (hfresh : .stale track ∉ tr) :
    Bookkept (tr ++ [.taken track]) { s.setCall thread (.took track g) with room := m } := by
  have hlive : track ∈ s.live := by
    have hknowing := h.knowing thread
    rw [hcall] at hknowing
    exact hknowing
  obtain ⟨hentry, hm⟩ := MediaRoom.takeEntry_eq_some htake
  have hold : ∀ kind address g, (m.generations kind).lookup address = some g →
      (s.room.generations kind).lookup address = some g := by
    intro kind address g hg
    rw [hm, MediaRoom.lookup_erased] at hg
    split at hg
    · cases hg
    · exact hg
  have hroom : m.room = s.room.room ∧ m.roomGeneration = s.room.roomGeneration := by
    rw [hm]
    simp
  have hlives : ∀ track', (s.setCall thread (.took track g)).Lives track' → s.Lives track' :=
    fun track' hl => lives_of_publishes (by simp [MediaCall.publishes]) hl
  have hhistory : ∀ e ∈ tr, e ∈ tr ++ [.taken track] := fun _ he => List.mem_append_left _ he
  refine ⟨?_, ?_, ?_, ?_, ?_, ?_, ?_⟩
  · intro room hattached
    exact (h.attached room (hroom.1.symm.trans hattached)).trans hroom.2.symm
  · intro kind address g hg
    exact hroom.1.trans (h.current kind address g (hold kind address g hg))
  · intro track' hlive' hfresh' g hg
    apply (h.entered track' hlive' (fun hmem => hfresh' (hhistory _ hmem)) g (hold _ _ g hg)).mono
      hhistory
    simp
  · intro track₁ track₂ hl₁ hl₂
    exact h.distinct track₁ track₂ (hlives track₁ hl₁) (hlives track₂ hl₂)
  · refine ⟨fun track' hl => h.numbered.1 track' (hlives track' hl), ?_⟩
    intro e he track' htrack'
    rcases List.mem_append.mp he with hbefore | hnew
    · exact h.numbered.2 e hbefore track' htrack'
    · rw [List.mem_singleton.mp hnew] at htrack'
      obtain rfl := Option.some.inj htrack'
      exact h.numbered.1 _ (.inl hlive)
  · apply exclusive_setCall h.exclusive
    intro track' htrack' other _ hother
    obtain rfl := Option.some.inj htrack'
    exact h.not_owns hlive (AList.mem_of_lookup hentry) other hother
  · refine knowing_update thread (.took track g) h.knowing ?_ ?_ ?_
    · rfl
    · refine ⟨hlive, (h.entered track hlive hfresh g hentry).mono hhistory (by simp), ?_⟩
      rw [← AList.lookup_eq_none, hm, MediaRoom.lookup_erased, if_pos ⟨rfl, rfl⟩]
    · intro other _
      refine ⟨fun ref href => href.congr hroom.1 hroom.2, hhistory,
        fun _ _ => ⟨fun hl => hl, by simp⟩, fun _ _ hl => hl, ?_⟩
      intro track' _
      refine ⟨?_, by simp⟩
      intro haddress
      obtain ⟨g, hg⟩ := Option.isSome_iff_exists.mp (AList.lookup_isSome.mpr haddress)
      exact AList.mem_of_lookup (hold _ _ g hg)

theorem Bookkept.changeRoom {m : MediaRoom} {evs : List MediaEvent} (h : Bookkept tr s)
    (hattached : ∀ room, m.room = some room → room = m.roomGeneration)
    (hempty : ∀ kind, m.generations kind = ∅)
    (hreferred : ∀ ref, Referred s.room ref → Referred m ref)
    (hevs : ∀ e ∈ evs, e = .detached) : Bookkept (tr ++ evs) { s with room := m } := by
  have hhistory : ∀ e, e.track ≠ none → e ∈ tr ++ evs → e ∈ tr := by
    intro e htrack hmem
    rcases List.mem_append.mp hmem with hold | hnew
    · exact hold
    · rw [hevs e hnew] at htrack
      exact absurd rfl htrack
  refine ⟨hattached, ?_, ?_, h.distinct, ?_, h.exclusive, ?_⟩
  · intro kind address g hg
    rw [hempty kind, AList.lookup_empty] at hg
    cases hg
  · intro track _ _ g hg
    rw [hempty track.kind, AList.lookup_empty] at hg
    cases hg
  · refine ⟨h.numbered.1, ?_⟩
    intro e he track htrack
    have hsome : e.track ≠ none := by
      rw [htrack]
      exact Option.some_ne_none track
    exact h.numbered.2 e (hhistory e hsome he) track htrack
  · intro thread
    apply (h.knowing thread).mono
    refine ⟨hreferred, fun _ he => List.mem_append_left _ he, ?_, fun _ _ hl => hl, ?_⟩
    · intro track _
      exact ⟨fun hl => hl, fun g hmem => hhistory _ (Option.some_ne_none track) hmem⟩
    · intro track _
      refine ⟨?_, fun room hmem => hhistory _ (Option.some_ne_none track) hmem⟩
      intro haddress
      rw [hempty track.kind] at haddress
      exact absurd haddress (AList.notMem_empty _)

/-- Without a room nothing is entered. -/
theorem Bookkept.empty (h : Bookkept tr s) (hroom : s.room.room = none) (kind : MediaKind) :
    s.room.generations kind = ∅ := by
  rw [AList.eq_empty_iff_lookup]
  intro address
  rw [Option.eq_none_iff_forall_ne_some]
  intro g hg
  have hsome := h.current kind address g hg
  rw [hroom] at hsome
  cases hsome

theorem bookkept_activateRoom (h : Bookkept tr s) (hroom : s.room.room = none) :
    Bookkept (tr ++ []) { s with room := s.room.activateRoom } := by
  apply h.changeRoom
  · intro room heq
    exact (Option.some.inj heq).symm
  · intro kind
    have hempty := h.empty hroom kind
    cases kind <;> exact hempty
  · intro ref href
    refine ⟨href.room, Nat.le_succ_of_le href.past, ?_⟩
    intro heq
    have hpast : ref.roomGeneration ≤ s.room.roomGeneration := href.past
    have heq' : ref.roomGeneration = s.room.roomGeneration + 1 := heq
    omega
  · intro e he
    cases he

theorem bookkept_detachRoom (h : Bookkept tr s)
    (htidy : s.room.audioTrackRoomGenerations = ∅) :
    Bookkept (tr ++ [.detached]) { s with room := s.room.detachRoom } := by
  apply h.changeRoom
  · intro room heq
    cases heq
  · intro kind
    cases kind with
    | video => rfl
    | audio => exact htidy
  · intro ref href
    have hpast : ref.roomGeneration ≤ s.room.roomGeneration := href.past
    cases hroom : s.room.room with
    | some room =>
      have hnext : s.room.detachRoom.roomGeneration = s.room.roomGeneration + 1 := by
        simp [MediaRoom.detachRoom, hroom]
      refine ⟨href.room, by omega, ?_⟩
      intro heq
      omega
    | none =>
      have hnext : s.room.detachRoom.roomGeneration = s.room.roomGeneration := by
        simp [MediaRoom.detachRoom, hroom]
      refine ⟨href.room, by omega, ?_⟩
      intro heq
      have hattached := href.attached (heq.trans hnext)
      rw [hroom] at hattached
      cases hattached
  · intro e he
    exact List.mem_singleton.mp he

theorem bookkept_drop {track : MediaTrack} (h : Bookkept tr s)
    (hfree : ∀ thread, (s.calls thread).unpublishes ≠ some track) :
    Bookkept (tr ++ []) { s with live := s.live.erase track } := by
  rw [List.append_nil]
  have hlives : ∀ track', MediaSystem.Lives { s with live := s.live.erase track } track' →
      s.Lives track' := fun track' hl => hl.imp_left List.mem_of_mem_erase
  refine ⟨h.attached, h.current, ?_, ?_, ?_, h.exclusive, ?_⟩
  · intro track' hlive
    exact h.entered track' (List.mem_of_mem_erase hlive)
  · intro track₁ track₂ hl₁ hl₂
    exact h.distinct track₁ track₂ (hlives track₁ hl₁) (hlives track₂ hl₂)
  · exact ⟨fun track' hl => h.numbered.1 track' (hlives track' hl), h.numbered.2⟩
  · intro thread
    apply (h.knowing thread).mono
    refine ⟨fun _ href => href, fun _ he => he,
      fun _ _ => ⟨List.mem_of_mem_erase, fun _ hmem => hmem⟩, ?_,
      fun _ _ => ⟨fun haddress => haddress, fun _ hmem => hmem⟩⟩
    intro track' hunpublishes hlive
    refine (List.mem_erase_of_ne ?_).mpr hlive
    intro heq
    rw [heq] at hunpublishes
    exact hfree thread hunpublishes

end Preservation

/-! ### Runs -/

theorem bookkept_step {tr evs : List MediaEvent} {s t : MediaSystem} (h : Bookkept tr s)
    (hstep : MediaStep s evs t) (htidy : ∀ e ∈ evs, Tidy s e) (hown : AtEach TakesOwn (tr ++ evs)) :
    Bookkept (tr ++ evs) t := by
  have hnone : ∀ track : MediaTrack, ∀ {P : Prop}, (none : Option MediaTrack) = some track → P := by
    intro track P hsome
    cases hsome
  cases hstep with
  | @refer thread kind available ref _ href =>
    exact h.setCall_of_owns_none (referred_participantRef h.attached href) rfl
  | create hcall hfree => exact bookkept_create h hcall hfree
  | createFailed _ => exact h.setCall_of_owns_none trivial rfl
  | @publishTrack thread track ref hcall =>
    obtain ⟨hreferred, hunborn⟩ : Knowing tr s (.publishing track ref) := hcall ▸ h.knowing thread
    have howns : (s.calls thread).owns = some track := by rw [hcall]; rfl
    apply h.emit
    · refine ⟨hreferred, ⟨hunborn.live, ?_, ?_⟩, by simp⟩
      · intro g hmem
        exact hunborn.recorded g (by simpa using hmem)
      · intro room hmem
        exact hunborn.unpublished room (by simpa using hmem)
    · intro track' howns'
      rw [← howns', howns]
      rfl
    · intro track' hl
      apply lives_of_publishes _ hl
      intro track' hpublishes
      rw [hcall]
      exact hpublishes
    · intro e he track' htrack'
      rw [List.mem_singleton.mp he] at htrack'
      obtain rfl := Option.some.inj htrack'
      exact h.numbered.1 _ (h.lives_of_owns howns)
    · simp
    · simp
  | publishFailed _ => exact h.setCall_of_owns_none trivial rfl
  | record hcall => exact bookkept_record h hcall
  | unpublish _ hlive => exact h.setCall_of_owns_none hlive rfl
  | notEntered _ _ => exact h.setCall_of_owns_none trivial rfl
  | take hcall htake => exact bookkept_take h hcall htake hown.last
  | giveUp _ => exact h.setCall_of_owns_none trivial rfl
  | @leave thread track g available ref hcall href hgeneration =>
    have hknowing : Knowing tr s (.took track g) := hcall ▸ h.knowing thread
    have hreferred := referred_participantRef h.attached href
    rw [← hgeneration, ← hreferred.room] at hknowing
    have hleaving : Knowing tr s (.leaving track ref.room) := hknowing
    apply h.setCall hleaving
    · intro track' howns
      rw [hcall]
      exact howns
    · intro track'
      exact hnone track'
  | @unpublishTrack thread track room hcall =>
    obtain ⟨hlive, _, haddress⟩ : Knowing tr s (.leaving track room) := hcall ▸ h.knowing thread
    apply h.emit
    · exact trivial
    · intro track'
      exact hnone track'
    · intro track' hl
      exact lives_of_publishes (fun track'' => hnone track'') hl
    · intro e he track' htrack'
      rw [List.mem_singleton.mp he] at htrack'
      obtain rfl := Option.some.inj htrack'
      exact h.numbered.1 _ (.inl hlive)
    · simp
    · intro track' room' hmem
      obtain ⟨rfl, rfl⟩ : track' = track ∧ room' = room := by simpa using hmem
      exact ⟨by rw [hcall]; rfl, haddress⟩
  | activateRoom hroom => exact bookkept_activateRoom h hroom
  | detachRoom => exact bookkept_detachRoom h (htidy .detached (List.mem_singleton_self _))
  | drop hfree => exact bookkept_drop h hfree

theorem bookkept_run {tr : List MediaEvent} {s : MediaSystem} (h : tidyMedia.Trace tr s)
    (hown : AtEach TakesOwn tr) : Bookkept tr s := by
  refine Machine.Trace.invariant_atEach (M := tidyMedia) (P := Bookkept) ?_ ?_ h hown
  · intro s hstart
    have heq : s = .initial := hstart
    rw [heq]
    refine ⟨?_, ?_, ?_, ?_, ⟨?_, ?_⟩, ?_, fun _ => trivial⟩
    · intro room hroom
      cases hroom
    · intro kind address g hg
      cases kind <;> cases hg
    · intro track hlive
      cases hlive
    · intro track track' hl
      rcases hl with hlive | ⟨thread, hpublishes⟩
      · cases hlive
      · cases hpublishes
    · intro track hl
      rcases hl with hlive | ⟨thread, hpublishes⟩
      · cases hlive
      · cases hpublishes
    · intro e he
      cases he
    · intro thread thread' track howns
      cases howns
  · intro tr evs s t _ ih hstep hC
    exact bookkept_step ih hstep.1 hstep.2 hC

theorem followsRoom_of_bookkept {tr : List MediaEvent} {s : MediaSystem} (h : Bookkept tr s) :
    FollowsRoom s.room where
  current kind address g hg := h.attached g (h.current kind address g hg)
  detached hroom := ⟨h.empty hroom .video, h.empty hroom .audio⟩

theorem rightly_step {tr evs : List MediaEvent} {s t : MediaSystem} (h : Bookkept tr s)
    (hstep : MediaStep s evs t) : evs.length ≤ 1 ∧ ∀ e ∈ evs, Rightly tr e := by
  have hsilent : ([] : List MediaEvent).length ≤ 1 ∧ ∀ e ∈ ([] : List MediaEvent), Rightly tr e :=
    ⟨Nat.zero_le 1, fun e he => by cases he⟩
  have hsingle : ∀ event, Rightly tr event → [event].length ≤ 1 ∧ ∀ e ∈ [event], Rightly tr e := by
    intro event hevent
    refine ⟨le_rfl, ?_⟩
    exact List.forall_mem_singleton.mpr hevent
  cases hstep with
  | publishTrack _ => exact hsingle _ trivial
  | @record thread track ref hcall =>
    obtain ⟨_, hunborn, _⟩ : Knowing tr s (.recording track ref) := hcall ▸ h.knowing thread
    split
    · exact hsingle _ trivial
    · exact hsingle _ hunborn.recorded
  | @unpublishTrack thread track room hcall =>
    obtain ⟨_, hdue, _⟩ : Knowing tr s (.leaving track room) := hcall ▸ h.knowing thread
    exact hsingle _ ⟨hdue.published, hdue.recorded, hdue.unpublished⟩
  | take _ _ => exact hsingle _ trivial
  | detachRoom => exact hsingle _ trivial
  | _ => exact hsilent

/-- A room that is detached with audio tracks entered leaves them entered. -/
theorem not_followsRoom_of_untidy {s t : MediaSystem} (hstep : MediaStep s [.detached] t)
    (h : ¬ Tidy s .detached) : ¬ FollowsRoom t.room := by
  generalize hevs : [MediaEvent.detached] = evs at hstep
  intro hfollows
  cases hstep with
  | detachRoom => exact h (hfollows.detached rfl).2
  | record _ => split at hevs <;> simp at hevs
  | _ => simp at hevs

/-- **Tracks are unpublished from the room that published them, and the maps follow the room**, in
every run in which no room is detached while audio tracks are entered, and no track that could not
be entered is unpublished while its map has an entry at its address.  A room that is detached
otherwise leaves an entry behind. -/
theorem mediaTracks_of_tidy (tr : List MediaEvent) (s : MediaSystem) :
    (tidyMedia.Trace tr s → AtEach TakesOwn tr →
      FollowsRoom s.room ∧ ∀ pre e post, tr = pre ++ e :: post → Rightly pre e) ∧
    ∀ t, MediaStep s [.detached] t → ¬ Tidy s .detached → ¬ FollowsRoom t.room := by
  refine ⟨?_, fun t => not_followsRoom_of_untidy⟩
  intro h hown
  refine ⟨followsRoom_of_bookkept (bookkept_run h hown), ?_⟩
  refine Machine.Trace.invariant_atEach (M := tidyMedia) (C := TakesOwn)
    (P := fun tr _ => AtEach Rightly tr) ?_ ?_ h hown
  · intro s _
    exact atEach_nil
  · intro tr evs s t prior ih hstep hC
    obtain ⟨hlength, hrightly⟩ := rightly_step (bookkept_run prior hC.left) hstep.1
    exact ih.append_of_length_le hlength hrightly

/-! ### Single runs -/

/-- What holds of the calls of two threads and of all the others holds of all. -/
theorem forall_call {P : MediaCall → Prop} {calls : ThreadId → MediaCall} (h₀ : P (calls 0))
    (h₁ : P (calls 1)) (h : ∀ n, P (calls (n + 2))) (thread : ThreadId) : P (calls thread) := by
  cases thread with
  | zero => exact h₀
  | succ n =>
    cases n with
    | zero => exact h₁
    | succ n => exact h n

theorem free_of_silent {s : MediaSystem} {address : Nat} (hlive : s.live = [])
    (h₀ : (s.calls 0).publishes = none) (h₁ : (s.calls 1).publishes = none)
    (h : ∀ n, (s.calls (n + 2)).publishes = none) :
    ∀ track, s.Lives track → track.address ≠ address := by
  intro track hl
  rcases hl with hmem | ⟨thread, hpublishes⟩
  · rw [hlive] at hmem
    cases hmem
  · have hnone := forall_call (P := fun call => call.publishes = none) h₀ h₁ h thread
    rw [hnone] at hpublishes
    cases hpublishes

/-- If every track could be entered, each entry that is taken out is its own. -/
theorem takesOwn_of_entered {tr : List MediaEvent} (h : ∀ track, .stale track ∉ tr) :
    AtEach TakesOwn tr := by
  intro pre e post heq
  cases e with
  | taken track =>
    intro hmem
    apply h track
    rw [heq]
    exact List.mem_append_left _ hmem
  | _ => exact trivial

/-- A video track is published and unpublished, and the room detached. -/
theorem mediaTracks_of_tidy_camera :
    ∃ tr s, tidyMedia.Trace tr s ∧ .unpublished ⟨0, .video, 7⟩ 1 ∈ tr ∧ FollowsRoom s.room ∧
      ∀ pre e post, tr = pre ++ e :: post → Rightly pre e := by
  have hstart : tidyMedia.Trace [] .initial := .start rfl
  have hactive := hstart.step ⟨.activateRoom rfl, by simp⟩
  have hreferred := hactive.step ⟨@MediaStep.refer _ 0 .video true _ rfl rfl, by simp⟩
  have hcreated := hreferred.step
    ⟨@MediaStep.create _ 0 .video _ 7 rfl (free_of_silent rfl rfl rfl fun _ => rfl),
      by simp⟩
  have hpublished := hcreated.step ⟨@MediaStep.publishTrack _ 0 _ _ rfl, by simp [Tidy]⟩
  have hrecorded := hpublished.step ⟨@MediaStep.record _ 0 _ _ rfl, by simp [Tidy]⟩
  have hcalled := hrecorded.step
    ⟨@MediaStep.unpublish _ 0 ⟨0, .video, 7⟩ rfl (List.mem_singleton_self _), by simp⟩
  have htook := hcalled.step ⟨@MediaStep.take _ 0 _ _ _ rfl rfl, by simp [Tidy]⟩
  have hleaving := htook.step ⟨@MediaStep.leave _ 0 _ _ true _ rfl rfl rfl, by simp⟩
  have hleft := hleaving.step ⟨@MediaStep.unpublishTrack _ 0 _ _ rfl, by simp [Tidy]⟩
  have hdetached : tidyMedia.Trace [.published ⟨0, .video, 7⟩ 1, .recorded ⟨0, .video, 7⟩ 1,
      .taken ⟨0, .video, 7⟩, .unpublished ⟨0, .video, 7⟩ 1, .detached] _ :=
    hleft.step ⟨.detachRoom, fun e he => by rw [List.mem_singleton.mp he]; rfl⟩
  exact ⟨_, _, hdetached, by simp,
    (mediaTracks_of_tidy _ _).1 hdetached (takesOwn_of_entered (by simp))⟩

/-- An audio track is published, and the room detached: it is still entered. -/
theorem not_followsRoom_detached : ∃ tr s, media.Trace tr s ∧ ¬ FollowsRoom s.room := by
  have hstart : media.Trace [] .initial := .start rfl
  have hactive := hstart.step (.activateRoom rfl)
  have hreferred := hactive.step (@MediaStep.refer _ 0 .audio true _ rfl rfl)
  have hcreated := hreferred.step
    (@MediaStep.create _ 0 .audio _ 7 rfl (free_of_silent rfl rfl rfl fun _ => rfl))
  have hpublished := hcreated.step (@MediaStep.publishTrack _ 0 _ _ rfl)
  have hrecorded := hpublished.step (@MediaStep.record _ 0 _ _ rfl)
  have hdetached := hrecorded.step .detachRoom
  refine ⟨_, _, hdetached, ?_⟩
  intro h
  have hentry : some 1 = none := congrArg (AList.lookup 7) (h.detached rfl).2
  cases hentry

/-- The address of a track that was let go while it was entered is used again, by a track of an
earlier room: that is unpublished from the room of the other. -/
theorem not_rightly_reused :
    ∃ pre s, media.Trace (pre ++ [.unpublished ⟨1, .video, 7⟩ 3]) s ∧
      ¬ Rightly pre (.unpublished ⟨1, .video, 7⟩ 3) := by
  have hstart : media.Trace [] .initial := .start rfl
  have hfirst := hstart.step (.activateRoom rfl)
  have hearly := hfirst.step (@MediaStep.refer _ 0 .video true _ rfl rfl)
  have hdetached := hearly.step .detachRoom
  have hsecond := hdetached.step (.activateRoom rfl)
  have hlate := hsecond.step (@MediaStep.refer _ 1 .video true _ rfl rfl)
  have hcreated := hlate.step (@MediaStep.create _ 1 .video _ 7 rfl
    (free_of_silent rfl rfl rfl fun _ => rfl))
  have hpublished := hcreated.step (@MediaStep.publishTrack _ 1 _ _ rfl)
  have hrecorded := hpublished.step (@MediaStep.record _ 1 _ _ rfl)
  have hdropped := hrecorded.step
    (@MediaStep.drop _ ⟨0, .video, 7⟩ (forall_call (P := fun call => call.unpublishes ≠ some _)
      nofun nofun fun _ => nofun))
  have hreused := hdropped.step (@MediaStep.create _ 0 .video _ 7 rfl
    (free_of_silent rfl rfl rfl fun _ => rfl))
  have hpublished' := hreused.step (@MediaStep.publishTrack _ 0 _ _ rfl)
  have hstale := hpublished'.step (@MediaStep.record _ 0 _ _ rfl)
  have hcalled := hstale.step
    (@MediaStep.unpublish _ 0 ⟨1, .video, 7⟩ rfl (List.mem_singleton_self _))
  have htook := hcalled.step (@MediaStep.take _ 0 _ _ _ rfl rfl)
  have hleaving := htook.step (@MediaStep.leave _ 0 _ _ true _ rfl rfl rfl)
  refine ⟨_, _, hleaving.step (@MediaStep.unpublishTrack _ 0 _ _ rfl), ?_⟩
  intro h
  have hnot : MediaEvent.published ⟨1, .video, 7⟩ 3 ∉ [.detached, .published ⟨0, .video, 7⟩ 3,
      .recorded ⟨0, .video, 7⟩ 3, .published ⟨1, .video, 7⟩ 1, .stale ⟨1, .video, 7⟩,
      .taken ⟨1, .video, 7⟩] := by decide
  exact hnot h.1

end LivekitBridge
