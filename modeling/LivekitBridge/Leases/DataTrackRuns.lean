import LivekitBridge.Leases.Throttle
import LivekitBridge.Lib.Assoc
import LivekitBridge.Lib.Simulation
import LivekitBridge.Utils.CallbackGate

/-!
# Data tracks and the callbacks that feed them

`data_track_publisher.cpp` with its threads.  The owner of a `DataTrackPublisher` calls `publish`,
`setIntervalMs` and at last the destructor, one after the other; ROS calls the callback of the
subscription on any threads, from the time the subscription was created, and also after it was
reset, as an executor that has taken a message goes on to the callback.

What the calls do to the publisher is `Leases.DataTrack`, where each is one step.  Here they are cut
where another thread can come between: `publish` before the subscription and before `unpublish`,
the destructor after each of its statements, and the callback before the gate (`Utils.CallbackGate`),
before the section of `push` and before `tryPushDataTrack`.

The invariant has three parts.  Which threads are inside the gate is read off their places; from the
end of `closeAndWait` on that is none (`GateShut`), and so no callback is left when the track is
unpublished.  A message that the throttle let through is with exactly one thread until it is handed
on.  And the sections of `push`, whatever threads they run on, are a run of `Leases.Throttle`.
-/

namespace LivekitBridge

open Lib

/-- Where the owner of a publisher is. -/
inductive OwnerPlace
  | idle
  /-- in the constructor of `Publication`, with the track published -/
  | subscribing
  /-- in its handler, before `unpublish` -/
  | abandoning
  /-- in the destructor of `Publication`, in `closeAndWait` -/
  | closing (thread : ThreadId)
  /-- in the destructor, before `unpublish` -/
  | unpublishing
  /-- The publisher is destroyed. -/
  | destroyed
deriving DecidableEq, Repr

/-- Where a callback of the subscription is, with the message. -/
inductive CallbackPlace
  /-- before the gate -/
  | called (cdr : Str)
  /-- before the section of `push` -/
  | entered (cdr : Str)
  /-- before `tryPushDataTrack` -/
  | pushing (cdr : Str)
  /-- before the end of `run` -/
  | leaving
deriving DecidableEq, Repr

/-- What a step did; the tracks of a publisher are numbered. -/
inductive DataTrackEvent
  | gate (event : GateEvent)
  /-- `publishDataTrack` returned a track. -/
  | published (track : Nat)
  /-- `unpublishDataTrack` was called. -/
  | unpublished (track : Nat) (throws : Bool)
  /-- A section of the publication's `push` or `setIntervalMs`. -/
  | call (call : Publication.Call)
  /-- `tryPushDataTrack` was called, with this `track_`. -/
  | handed (track : Option Nat) (cdr : Str) (accepted : Bool)
deriving DecidableEq, Repr

/-- A publisher with its threads.  `track` is `track_` of the present `State`, and `now` the time of
the last section of `push`. -/
structure DataTrackState where
  publisher : DataTrackPublisher
  owner : OwnerPlace
  track : Option Nat
  nextTrack : Nat
  gate : GateState
  callbacks : AList fun _ : ThreadId => CallbackPlace
  now : Time

namespace DataTrackState

/-- A publisher that was just constructed. -/
def initial (rosTopic interfaceType : Str) : DataTrackState :=
  ⟨.new rosTopic interfaceType, .idle, none, 0, ⟨.initial .concurrent, [], 0⟩, ∅, 0⟩

variable (s : DataTrackState)

def setCallback (thread : ThreadId) (place : CallbackPlace) : DataTrackState :=
  { s with callbacks := s.callbacks.insert thread place }

def endCallback (thread : ThreadId) : DataTrackState :=
  { s with callbacks := s.callbacks.erase thread }

/-- The constructor of `State`, in `publish`. -/
def publishTrack : TrackReply → DataTrackState × List DataTrackEvent
  | .threw => (s, [])
  | .null => (s, [])
  | .track =>
    ({ s with owner := .subscribing, track := some s.nextTrack, nextTrack := s.nextTrack + 1 },
      [.published s.nextTrack])

/-- `subscribe`, in `publish`. -/
def subscribe (node : Node) (isTransientLocal subscribes : Bool) : DataTrackState :=
  let publisher := s.publisher.publish node ⟨.track, isTransientLocal, subscribes⟩
  { s with
    publisher := publisher
    owner := if publisher.isPublished then .idle else .abandoning }

def unpublish (throws : Bool) : DataTrackState × List DataTrackEvent :=
  match s.track with
  | none => (s, [])
  | some track =>
    ({ s with track := if throws then some track else none }, [.unpublished track throws])

def setIntervalMs (intervalMs : Int) : DataTrackState × List DataTrackEvent :=
  ({ s with publisher := s.publisher.setIntervalMs intervalMs },
    if s.publisher.isPublished then [.call (.setIntervalMs intervalMs)] else [])

/-- The section of `push`, and where the callback goes on. -/
def push (thread : ThreadId) (p : Publication) (now : Time) (cdr : Str) :
    DataTrackState × List DataTrackEvent :=
  ({ s with
      publisher := s.publisher.push now cdr
      callbacks := s.callbacks.insert thread (if (p.push now cdr).2 then .pushing cdr else .leaving)
      now := now },
    [.call (.push now p.intervalMs cdr (p.push now cdr).2)])

end DataTrackState

/-- One step of one thread. -/
inductive DataTrackStep (node : Node) : DataTrackState → List DataTrackEvent → DataTrackState → Prop
  | publishTrack (reply : TrackReply) (s : DataTrackState) :
      s.owner = .idle → s.publisher.publication = none →
      DataTrackStep node s (s.publishTrack reply).2 (s.publishTrack reply).1
  | subscribe (isTransientLocal subscribes : Bool) (s : DataTrackState) : s.owner = .subscribing →
      DataTrackStep node s [] (s.subscribe node isTransientLocal subscribes)
  | abandon (throws : Bool) (s : DataTrackState) : s.owner = .abandoning →
      -- the `State` goes with the exception
      DataTrackStep node s (s.unpublish throws).2
        { (s.unpublish throws).1 with owner := .idle, track := none }
  | setIntervalMs (intervalMs : Int) (s : DataTrackState) : s.owner = .idle → 0 ≤ intervalMs →
      DataTrackStep node s (s.setIntervalMs intervalMs).2 (s.setIntervalMs intervalMs).1
  | deliver (thread : ThreadId) (cdr : Str) (s : DataTrackState) :
      s.publisher.publication.isSome = true → s.callbacks.lookup thread = none →
      s.owner ≠ .closing thread → DataTrackStep node s [] (s.setCallback thread (.called cdr))
  | enter (thread : ThreadId) (cdr : Str) (gate : GateState) (s : DataTrackState) :
      s.callbacks.lookup thread = some (.called cdr) → GateStep s.gate [.entered thread] gate →
      DataTrackStep node s [.gate (.entered thread)]
        { s.setCallback thread (.entered cdr) with gate := gate }
  | refuse (thread : ThreadId) (cdr : Str) (gate : GateState) (s : DataTrackState) :
      s.callbacks.lookup thread = some (.called cdr) → GateStep s.gate [.refused thread] gate →
      DataTrackStep node s [.gate (.refused thread)] { s.endCallback thread with gate := gate }
  | push (thread : ThreadId) (cdr : Str) (p : Publication) (now : Time) (s : DataTrackState) :
      s.callbacks.lookup thread = some (.entered cdr) → s.publisher.publication = some p →
      s.now ≤ now → DataTrackStep node s (s.push thread p now cdr).2 (s.push thread p now cdr).1
  | tryPush (thread : ThreadId) (cdr : Str) (accepted : Bool) (s : DataTrackState) :
      s.callbacks.lookup thread = some (.pushing cdr) →
      DataTrackStep node s [.handed s.track cdr accepted] (s.setCallback thread .leaving)
  | leave (thread : ThreadId) (throws : Bool) (gate : GateState) (s : DataTrackState) :
      s.callbacks.lookup thread = some .leaving → GateStep s.gate [.left thread throws] gate →
      DataTrackStep node s [.gate (.left thread throws)] { s.endCallback thread with gate := gate }
  | destroyUnpublished (s : DataTrackState) : s.owner = .idle → s.publisher.publication = none →
      DataTrackStep node s [] { s with owner := .destroyed }
  | close (thread : ThreadId) (call : Nat) (gate : GateState) (s : DataTrackState) :
      s.owner = .idle → s.publisher.publication.isSome = true → s.callbacks.lookup thread = none →
      GateStep s.gate [.closing call thread .allCallbacks] gate →
      DataTrackStep node s [.gate (.closing call thread .allCallbacks)]
        { s with owner := .closing thread, gate := gate }
  | closed (thread : ThreadId) (call : Nat) (first : Bool) (gate : GateState) (s : DataTrackState) :
      s.owner = .closing thread → GateStep s.gate [.closed call thread .allCallbacks first] gate →
      DataTrackStep node s [.gate (.closed call thread .allCallbacks first)]
        { s with owner := .unpublishing, gate := gate }
  | unpublish (throws : Bool) (s : DataTrackState) : s.owner = .unpublishing →
      DataTrackStep node s (s.unpublish throws).2
        { (s.unpublish throws).1 with owner := .destroyed }

/-- A publisher and its threads as a machine. -/
def dataTrackMachine (node : Node) : Machine DataTrackState DataTrackEvent where
  start s := ∃ rosTopic interfaceType, s = .initial rosTopic interfaceType
  step := DataTrackStep node

/-! ### The tracks -/

/-- `unpublishDataTrack` is called for the track. -/
def DataTrackEvent.unpublishes (track : Nat) : DataTrackEvent → Bool
  | .unpublished other _ => other == track
  | _ => false

/-- How often `unpublishDataTrack` was called for the track. -/
def unpublishCalls (tr : List DataTrackEvent) (track : Nat) : Nat :=
  tr.countP (DataTrackEvent.unpublishes track)

/-- The event is about the callbacks. -/
def DataTrackEvent.isAside : DataTrackEvent → Bool
  | .gate _ => true
  | .call _ => true
  | .handed .. => true
  | _ => false

/-- The track was published, and no call was made to unpublish it. -/
def LiveTrack (tr : List DataTrackEvent) (track : Nat) : Prop :=
  .published track ∈ tr ∧ unpublishCalls tr track = 0

/-- The constructor of `Publication` is not over. -/
def OwnerPlace.isBuilding : OwnerPlace → Bool
  | .subscribing => true
  | .abandoning => true
  | _ => false

/-- The destructor of `Publication` has begun, and is not over. -/
def OwnerPlace.isShutting : OwnerPlace → Bool
  | .closing _ => true
  | .unpublishing => true
  | _ => false

/-- The track is that of a `State` that is there. -/
def DataTrackState.Has (s : DataTrackState) (track : Nat) : Prop :=
  s.track = some track ∧ s.owner ≠ .destroyed

instance (s : DataTrackState) (track : Nat) : Decidable (s.Has track) :=
  inferInstanceAs (Decidable (_ ∧ _))

/-- The track that the owner has, and the tracks it had. -/
structure TracksKept (tr : List DataTrackEvent) (s : DataTrackState) : Prop where
  held : s.owner ≠ .destroyed →
    (s.track.isSome = true ↔ s.owner.isBuilding = true ∨ s.publisher.publication.isSome = true)
  building : s.owner.isBuilding = true → s.publisher.publication = none
  shutting : s.owner.isShutting = true → s.publisher.publication.isSome = true
  numbered : ∀ n, tr.count (.published n) = if n < s.nextTrack then 1 else 0
  present : ∀ n, s.track = some n → n < s.nextTrack
  counted : ∀ n, unpublishCalls tr n + (if s.Has n then 1 else 0) = tr.count (.published n)

section Tracks

variable {node : Node} {tr evs : List DataTrackEvent} {s t : DataTrackState}

theorem count_append_of_aside (hevs : ∀ e ∈ evs, e.isAside = true) (n : Nat) :
    (tr ++ evs).count (.published n) = tr.count (.published n) ∧
      unpublishCalls (tr ++ evs) n = unpublishCalls tr n := by
  rw [unpublishCalls, List.count_append, List.countP_append]
  have hpublished : evs.count (.published n) = 0 := by
    rw [List.count_eq_zero]
    intro hmem
    cases hevs _ hmem
  have hunpublished : evs.countP (DataTrackEvent.unpublishes n) = 0 := by
    rw [List.countP_eq_zero]
    intro e he
    have haside := hevs e he
    cases e with
    | unpublished => cases haside
    | _ => simp [DataTrackEvent.unpublishes]
  rw [hpublished, hunpublished]
  exact ⟨rfl, rfl⟩

/-- A step that publishes and unpublishes nothing. -/
theorem TracksKept.moved (h : TracksKept tr s) (hevs : ∀ e ∈ evs, e.isAside = true)
    (htrack : t.track = s.track) (hnext : t.nextTrack = s.nextTrack)
    (hhas : ∀ n, t.Has n ↔ s.Has n)
    (hheld : t.owner ≠ .destroyed →
      (s.track.isSome = true ↔ t.owner.isBuilding = true ∨ t.publisher.publication.isSome = true))
    (hbuilding : t.owner.isBuilding = true → t.publisher.publication = none)
    (hshutting : t.owner.isShutting = true → t.publisher.publication.isSome = true) :
    TracksKept (tr ++ evs) t := by
  refine ⟨?_, hbuilding, hshutting, ?_, ?_, ?_⟩
  · rw [htrack]
    exact hheld
  · intro n
    rw [(count_append_of_aside hevs n).1, hnext]
    exact h.numbered n
  · rw [htrack, hnext]
    exact h.present
  · intro n
    rw [(count_append_of_aside hevs n).1, (count_append_of_aside hevs n).2]
    simp only [hhas]
    exact h.counted n

/-- A step that leaves the owner's things alone. -/
theorem TracksKept.aside (h : TracksKept tr s) (hevs : ∀ e ∈ evs, e.isAside = true)
    (howner : t.owner = s.owner) (htrack : t.track = s.track) (hnext : t.nextTrack = s.nextTrack)
    (hpublication : t.publisher.publication.isSome = s.publisher.publication.isSome) :
    TracksKept (tr ++ evs) t := by
  refine h.moved hevs htrack hnext (fun n => ?_) ?_ ?_ ?_
  · rw [DataTrackState.Has, DataTrackState.Has, howner, htrack]
  · rw [howner, hpublication]
    exact h.held
  · intro hbuilding
    rw [howner] at hbuilding
    rw [← Option.isNone_iff_eq_none, ← Option.not_isSome, hpublication, h.building hbuilding]
    rfl
  · rw [howner, hpublication]
    exact h.shutting

theorem TracksKept.initial (rosTopic interfaceType : Str) :
    TracksKept [] (DataTrackState.initial rosTopic interfaceType) := by
  refine ⟨?_, ?_, ?_, ?_, ?_, ?_⟩
  · simp [DataTrackState.initial, DataTrackPublisher.new, OwnerPlace.isBuilding]
  · exact fun _ => rfl
  · intro hshutting
    cases hshutting
  · exact fun n => (if_neg (Nat.not_lt_zero n)).symm
  · intro n htrack
    cases htrack
  · intro n
    have hnot : ¬ (DataTrackState.initial rosTopic interfaceType).Has n := by
      rintro ⟨htrack, -⟩
      cases htrack
    rw [if_neg hnot]
    rfl

theorem TracksKept.publishTrack (h : TracksKept tr s) (howner : s.owner = .idle)
    (hnone : s.publisher.publication = none) (reply : TrackReply) :
    TracksKept (tr ++ (s.publishTrack reply).2) (s.publishTrack reply).1 := by
  cases reply with
  | threw =>
    show TracksKept (tr ++ []) s
    rw [List.append_nil]
    exact h
  | null =>
    show TracksKept (tr ++ []) s
    rw [List.append_nil]
    exact h
  | track =>
    have htrack : s.track = none := by
      have hheld := h.held (by rw [howner]; simp)
      simpa [howner, hnone, OwnerPlace.isBuilding] using hheld
    refine ⟨?_, ?_, ?_, ?_, ?_, ?_⟩
    · simp [DataTrackState.publishTrack, OwnerPlace.isBuilding]
    · exact fun _ => hnone
    · intro hshutting
      cases hshutting
    · intro n
      show (tr ++ [_]).count _ = if n < s.nextTrack + 1 then 1 else 0
      rw [List.count_append, h.numbered n, List.count_singleton]
      by_cases heq : s.nextTrack = n
      · simp [heq]
      · have hne : (DataTrackEvent.published s.nextTrack == .published n) = false := by simpa using heq
        rw [hne]
        have hlt : n < s.nextTrack + 1 ↔ n < s.nextTrack := by omega
        simp [hlt]
    · intro n hn
      obtain rfl := Option.some.inj hn
      exact Nat.lt_succ_self _
    · intro n
      have hcounted := h.counted n
      rw [if_neg (fun hhas : s.Has n => by rw [hhas.1] at htrack; cases htrack)] at hcounted
      show unpublishCalls (tr ++ [_]) n + _ = (tr ++ [_]).count _
      rw [unpublishCalls, List.countP_append, List.count_append, ← hcounted]
      have hhas : (s.publishTrack .track).1.Has n ↔ s.nextTrack = n := by
        simp [DataTrackState.publishTrack, DataTrackState.Has]
      simp only [hhas]
      by_cases heq : s.nextTrack = n
      · simp [heq, unpublishCalls, DataTrackEvent.unpublishes]
      · simp [heq, unpublishCalls, DataTrackEvent.unpublishes]

theorem TracksKept.unpublish (h : TracksKept tr s) (howner : s.owner ≠ .destroyed)
    (htrack : s.track.isSome = true) (throws : Bool) (hnext : t.nextTrack = s.nextTrack)
    (hpublication : t.publisher.publication = s.publisher.publication)
    (hafter : t.owner = .idle ∧ t.track = none ∧ s.publisher.publication = none ∨
      t.owner = .destroyed ∧ t.track = (s.unpublish throws).1.track) :
    TracksKept (tr ++ (s.unpublish throws).2) t := by
  obtain ⟨track, hsome⟩ := Option.isSome_iff_exists.mp htrack
  have hevents : (s.unpublish throws).2 = [.unpublished track throws] := by
    rw [DataTrackState.unpublish, hsome]
  have hnotHas : ∀ n, ¬ t.Has n := by
    rintro n ⟨hn, hne⟩
    rcases hafter with ⟨-, hnone, -⟩ | ⟨hdestroyed, -⟩
    · rw [hnone] at hn
      cases hn
    · exact hne hdestroyed
  have hcount : ∀ n, (tr ++ (s.unpublish throws).2).count (.published n) = tr.count (.published n) := by
    intro n
    rw [hevents, List.count_append]
    simp
  refine ⟨?_, ?_, ?_, ?_, ?_, ?_⟩
  · intro hne
    rcases hafter with ⟨hidle, hnone, hunpublished⟩ | ⟨hdestroyed, -⟩
    · simp [hidle, hnone, hpublication, hunpublished, OwnerPlace.isBuilding]
    · exact absurd hdestroyed hne
  · intro hbuilding
    rcases hafter with ⟨hidle, -, -⟩ | ⟨hdestroyed, -⟩
    · rw [hidle] at hbuilding
      cases hbuilding
    · rw [hdestroyed] at hbuilding
      cases hbuilding
  · intro hshutting
    rcases hafter with ⟨hidle, -, -⟩ | ⟨hdestroyed, -⟩
    · rw [hidle] at hshutting
      cases hshutting
    · rw [hdestroyed] at hshutting
      cases hshutting
  · intro n
    rw [hcount n, hnext]
    exact h.numbered n
  · intro n hn
    rw [hnext]
    rcases hafter with ⟨-, hnone, -⟩ | ⟨-, hafter⟩
    · rw [hnone] at hn
      cases hn
    · refine h.present n ?_
      rw [hafter, DataTrackState.unpublish, hsome] at hn
      cases throws with
      | true => rw [hsome]; exact hn
      | false => cases hn
  · intro n
    rw [hcount n, if_neg (hnotHas n), ← h.counted n, unpublishCalls, hevents, List.countP_append]
    have hhas : s.Has n ↔ track = n := by simp [DataTrackState.Has, hsome, howner]
    simp only [hhas]
    by_cases heq : track = n
    · simp [heq, unpublishCalls, DataTrackEvent.unpublishes]
    · simp [heq, unpublishCalls, DataTrackEvent.unpublishes]

theorem isSome_setIntervalMs (d : DataTrackPublisher) (intervalMs : Int) :
    (d.setIntervalMs intervalMs).publication.isSome = d.publication.isSome :=
  Option.isSome_map

theorem isSome_push (d : DataTrackPublisher) (now : Time) (cdr : Str) :
    (d.push now cdr).publication.isSome = d.publication.isSome :=
  Option.isSome_map

theorem TracksKept.step (h : TracksKept tr s) (hs : DataTrackStep node s evs t) :
    TracksKept (tr ++ evs) t := by
  cases hs with
  | publishTrack reply _ howner hnone => exact h.publishTrack howner hnone reply
  | subscribe isTransientLocal subscribes _ howner =>
    have htrack : s.track.isSome = true :=
      (h.held (by rw [howner]; simp)).mpr (.inl (by rw [howner]; rfl))
    generalize hpublisher : s.publisher.publish node ⟨.track, isTransientLocal, subscribes⟩ = publisher
    unfold DataTrackState.subscribe
    dsimp only
    rw [hpublisher]
    cases hpublication : publisher.publication with
    | none =>
      rw [if_neg (by simp [DataTrackPublisher.isPublished, hpublication])]
      refine h.moved (by simp) rfl rfl (fun n => ?_) ?_ (fun _ => hpublication) ?_
      · simp [DataTrackState.Has, howner]
      · simp [htrack, OwnerPlace.isBuilding]
      · simp [OwnerPlace.isShutting]
    | some p =>
      rw [if_pos (by simp [DataTrackPublisher.isPublished, hpublication])]
      refine h.moved (by simp) rfl rfl (fun n => ?_) ?_ ?_ ?_
      · simp [DataTrackState.Has, howner]
      · simp [htrack, hpublication]
      · simp [OwnerPlace.isBuilding]
      · simp [OwnerPlace.isShutting]
  | abandon throws _ howner =>
    have hbuilding : s.owner.isBuilding = true := by rw [howner]; rfl
    have hne : s.owner ≠ .destroyed := by rw [howner]; simp
    refine h.unpublish hne ((h.held hne).mpr (.inl hbuilding)) throws ?_ ?_
      (.inl ⟨rfl, rfl, h.building hbuilding⟩)
    · unfold DataTrackState.unpublish
      split <;> rfl
    · unfold DataTrackState.unpublish
      split <;> rfl
  | setIntervalMs intervalMs _ howner hnonneg =>
    refine h.aside ?_ rfl rfl rfl (isSome_setIntervalMs _ _)
    intro e he
    unfold DataTrackState.setIntervalMs at he
    dsimp only at he
    split at he
    · rw [List.mem_singleton.mp he]
      rfl
    · cases he
  | deliver => exact h.aside (by simp) rfl rfl rfl rfl
  | enter => exact h.aside (by simp [DataTrackEvent.isAside]) rfl rfl rfl rfl
  | refuse => exact h.aside (by simp [DataTrackEvent.isAside]) rfl rfl rfl rfl
  | push thread cdr p now _ hplace hp hnow =>
    refine h.aside ?_ rfl rfl rfl (isSome_push _ _ _)
    simp [DataTrackState.push, DataTrackEvent.isAside]
  | tryPush => exact h.aside (by simp [DataTrackEvent.isAside]) rfl rfl rfl rfl
  | leave => exact h.aside (by simp [DataTrackEvent.isAside]) rfl rfl rfl rfl
  | destroyUnpublished _ howner hnone =>
    have htrack : s.track = none := by
      have hheld := h.held (by rw [howner]; simp)
      simpa [howner, hnone, OwnerPlace.isBuilding] using hheld
    refine h.moved (by simp) rfl rfl (fun n => ?_) (fun hne => absurd rfl hne) ?_ ?_
    · simp [DataTrackState.Has, htrack]
    · simp [OwnerPlace.isBuilding]
    · simp [OwnerPlace.isShutting]
  | close thread call gate _ howner hpublished hplace hgate =>
    have htrack := (h.held (by rw [howner]; simp)).mpr (.inr hpublished)
    refine h.moved (by simp [DataTrackEvent.isAside]) rfl rfl (fun n => ?_) ?_ ?_ ?_
    · simp [DataTrackState.Has, howner]
    · simp [htrack, hpublished]
    · simp [OwnerPlace.isBuilding]
    · exact fun _ => hpublished
  | closed thread call first gate _ howner hgate =>
    have hpublished := h.shutting (by rw [howner]; rfl)
    have htrack := (h.held (by rw [howner]; simp)).mpr (.inr hpublished)
    refine h.moved (by simp [DataTrackEvent.isAside]) rfl rfl (fun n => ?_) ?_ ?_ ?_
    · simp [DataTrackState.Has, howner]
    · simp [htrack, hpublished]
    · simp [OwnerPlace.isBuilding]
    · exact fun _ => hpublished
  | unpublish throws _ howner =>
    have hne : s.owner ≠ .destroyed := by rw [howner]; simp
    have hpublished := h.shutting (by rw [howner]; rfl)
    refine h.unpublish hne ((h.held hne).mpr (.inr hpublished)) throws ?_ ?_ (.inr ⟨rfl, rfl⟩)
    · unfold DataTrackState.unpublish
      split <;> rfl
    · unfold DataTrackState.unpublish
      split <;> rfl

end Tracks

/-! ### The callbacks -/

def DataTrackEvent.gate? : DataTrackEvent → Option GateEvent
  | .gate event => some event
  | _ => none

/-- The callback is inside the gate. -/
def CallbackPlace.isInside : CallbackPlace → Bool
  | .called _ => false
  | _ => true

/-- **The gate of the callbacks.** -/
theorem projects_callbackGate (node : Node) :
    (dataTrackMachine node).Projects gateMachine DataTrackState.gate DataTrackEvent.gate? := by
  refine ⟨?_, ?_⟩
  · rintro s ⟨rosTopic, interfaceType, rfl⟩
    exact ⟨.concurrent, rfl⟩
  · intro tr evs s t _ hs
    cases hs with
    | publishTrack reply _ howner hnone =>
      cases reply with
      | threw => exact .refl
      | null => exact .refl
      | track => exact .refl
    | subscribe => exact .refl
    | abandon throws _ howner =>
      unfold DataTrackState.unpublish
      split
      · exact .refl
      · exact .refl
    | setIntervalMs intervalMs _ howner hnonneg =>
      unfold DataTrackState.setIntervalMs
      dsimp only
      split
      · exact .refl
      · exact .refl
    | deliver => exact .refl
    | enter thread cdr gate _ hplace hgate => exact .single hgate
    | refuse thread cdr gate _ hplace hgate => exact .single hgate
    | push => exact .refl
    | tryPush => exact .refl
    | leave thread throws gate _ hplace hgate => exact .single hgate
    | destroyUnpublished => exact .refl
    | close thread call gate _ howner hpublished hplace hgate => exact .single hgate
    | closed thread call first gate _ howner hgate => exact .single hgate
    | unpublish throws _ howner =>
      unfold DataTrackState.unpublish
      split
      · exact .refl
      · exact .refl

/-- How often the thread is inside, by the place of its callback. -/
def insideCount (place : Option CallbackPlace) : Nat := (place.any CallbackPlace.isInside).toNat

/-- The gate is closed, and nobody is inside. -/
def GateShut (gate : GateState) : Prop := gate.gate.isClosed = true ∧ gate.running = []

/-- The threads inside the gate, by the places of the callbacks. -/
structure CallbacksKept (s : DataTrackState) : Prop where
  none_before : s.publisher.publication = none → s.callbacks = ∅
  inside : ∀ thread, s.gate.running.count thread = insideCount (s.callbacks.lookup thread)
  shut : s.publisher.publication.isSome = true →
    s.owner = .unpublishing ∨ s.owner = .destroyed → GateShut s.gate

section Callbacks

variable {node : Node} {tr evs : List DataTrackEvent} {s t : DataTrackState} {thread : ThreadId}

theorem CallbacksKept.goesOn (h : CallbacksKept s) {place : Option CallbackPlace}
    (hpublished : t.publisher.publication.isSome = s.publisher.publication.isSome)
    (hsome : s.publisher.publication.isSome = true) (howner : t.owner = s.owner)
    (hcallbacks : ∀ other, t.callbacks.lookup other =
      if other = thread then place else s.callbacks.lookup other)
    (hcount : ∀ other, t.gate.running.count other + (if other = thread
      then insideCount (s.callbacks.lookup thread) else 0) =
        s.gate.running.count other + (if other = thread then insideCount place else 0))
    (hshut : GateShut s.gate → GateShut t.gate) : CallbacksKept t := by
  refine ⟨?_, ?_, ?_⟩
  · intro hnone
    rw [hnone, hsome] at hpublished
    cases hpublished
  · intro other
    have hothers := hcount other
    rw [h.inside other] at hothers
    rw [hcallbacks other]
    by_cases heq : other = thread
    · subst heq
      simp only [if_true] at hothers ⊢
      omega
    · simp only [heq, if_false] at hothers ⊢
      exact hothers
  · intro _ hover
    rw [howner] at hover
    exact hshut (h.shut hsome hover)

theorem isSome_of_lookup (h : CallbacksKept s) {place : CallbackPlace}
    (hplace : s.callbacks.lookup thread = some place) :
    s.publisher.publication.isSome = true := by
  rw [Option.isSome_iff_ne_none]
  intro hnone
  rw [h.none_before hnone, AList.lookup_empty] at hplace
  cases hplace

theorem CallbacksKept.owner (h : CallbacksKept s) (hcallbacks : t.callbacks = s.callbacks)
    (hgate : t.gate = s.gate)
    (hpublication : t.publisher.publication = none → s.publisher.publication = none)
    (hshut : t.publisher.publication.isSome = true →
      t.owner = .unpublishing ∨ t.owner = .destroyed →
        s.publisher.publication.isSome = true ∧ (s.owner = .unpublishing ∨ s.owner = .destroyed)) :
    CallbacksKept t := by
  refine ⟨?_, ?_, ?_⟩
  · intro hnone
    rw [hcallbacks]
    exact h.none_before (hpublication hnone)
  · rw [hcallbacks, hgate]
    exact h.inside
  · intro hsome hover
    rw [hgate]
    obtain ⟨hbefore, hwas⟩ := hshut hsome hover
    exact h.shut hbefore hwas

theorem CallbacksKept.step (h : CallbacksKept s) (htracks : TracksKept tr s)
    (hbooks : GateBooks (tr.filterMap DataTrackEvent.gate?) s.gate)
    (hs : DataTrackStep node s evs t) : CallbacksKept t := by
  cases hs with
  | publishTrack reply _ howner hnone =>
    cases reply with
    | threw => exact h
    | null => exact h
    | track => exact h.owner rfl rfl (fun hnone => hnone) (by simp [DataTrackState.publishTrack])
  | subscribe isTransientLocal subscribes _ howner =>
    have hnone := htracks.building (by rw [howner]; rfl)
    refine h.owner rfl rfl (fun _ => hnone) ?_
    unfold DataTrackState.subscribe
    dsimp only
    split
    · simp
    · simp
  | abandon throws _ howner =>
    unfold DataTrackState.unpublish
    split
    · exact h.owner rfl rfl (fun hnone => hnone) (by simp)
    · exact h.owner rfl rfl (fun hnone => hnone) (by simp)
  | setIntervalMs intervalMs _ howner hnonneg =>
    have hsame := isSome_setIntervalMs s.publisher intervalMs
    refine h.owner rfl rfl (fun hnone => ?_) ?_
    · unfold DataTrackState.setIntervalMs at hnone
      rw [hnone] at hsame
      simpa using hsame.symm
    · simp [DataTrackState.setIntervalMs, howner]
  | deliver thread cdr _ hpublished hplace hother =>
    refine h.goesOn rfl hpublished rfl (fun other => AList.lookup_insert_eq_if other thread _ _)
      (fun other => ?_) (fun hshut => hshut)
    rw [hplace]
    rfl
  | enter thread cdr gate _ hplace hgate =>
    obtain ⟨hrunning, hopen⟩ := running_of_entered hgate
    refine h.goesOn rfl (isSome_of_lookup h hplace) rfl
      (fun other => AList.lookup_insert_eq_if other thread _ _) (fun other => ?_) ?_
    · rw [hplace]
      show gate.running.count other + _ = _
      rw [hrunning, List.count_cons]
      by_cases heq : other = thread
      · simp [heq, insideCount, CallbackPlace.isInside]
      · simp [heq, Ne.symm heq]
    · intro hshut
      rw [hshut.1] at hopen
      cases hopen
  | refuse thread cdr gate _ hplace hgate =>
    obtain ⟨hrunning, hclosed⟩ := running_of_refused hgate
    refine h.goesOn rfl (isSome_of_lookup h hplace) rfl
      (fun other => AList.lookup_erase_eq_if other thread _) (fun other => ?_) ?_
    · rw [hplace]
      show gate.running.count other + _ = _
      rw [hrunning]
      rfl
    · exact fun hshut => ⟨hclosed.trans hshut.1, hrunning.trans hshut.2⟩
  | push thread cdr p now _ hplace hp hnow =>
    refine h.goesOn (isSome_push _ _ _) (isSome_of_lookup h hplace) rfl
      (fun other => AList.lookup_insert_eq_if other thread _ _) (fun other => ?_)
      (fun hshut => hshut)
    rw [hplace]
    show s.gate.running.count other + _ = _
    split
    · split
      · rfl
      · rfl
    · rfl
  | tryPush thread cdr accepted _ hplace =>
    refine h.goesOn rfl (isSome_of_lookup h hplace) rfl
      (fun other => AList.lookup_insert_eq_if other thread _ _) (fun other => ?_)
      (fun hshut => hshut)
    rw [hplace]
    rfl
  | leave thread throws gate _ hplace hgate =>
    obtain ⟨hrunning, hclosed⟩ := running_of_left hgate
    refine h.goesOn rfl (isSome_of_lookup h hplace) rfl
      (fun other => AList.lookup_erase_eq_if other thread _) (fun other => ?_) ?_
    · rw [hplace]
      show gate.running.count other + _ = _
      rw [← hrunning other]
      by_cases heq : other = thread
      · simp [heq, insideCount, CallbackPlace.isInside]
      · simp [heq]
    · intro hshut
      have hnobody : gate.running = [] := by
        rw [List.eq_nil_iff_forall_not_mem]
        intro other hmem
        have hcount := hrunning other
        rw [hshut.2, List.count_nil] at hcount
        have hpos := List.count_pos_iff.mpr hmem
        omega
      exact ⟨hclosed.trans hshut.1, hnobody⟩
  | destroyUnpublished _ howner hnone =>
    exact h.owner rfl rfl (fun hnone => hnone) (by simp [hnone])
  | close thread call gate _ howner hpublished hplace hgate =>
    refine ⟨h.none_before, fun other => ?_, by simp⟩
    show gate.running.count other = _
    rw [running_of_closing hgate]
    exact h.inside other
  | closed thread call first gate _ howner hgate =>
    refine ⟨h.none_before, fun other => ?_, fun _ _ => ?_⟩
    · show gate.running.count other = _
      rw [running_of_closed hgate]
      exact h.inside other
    · refine ⟨?_, ?_⟩
      · exact ((hbooks.step hgate).returned call thread .allCallbacks first (by simp)).1
      · rcases hbooks.running_wake hgate with hnone | ⟨hmode, -⟩
        · exact hnone
        · cases hmode
  | unpublish throws _ howner =>
    unfold DataTrackState.unpublish
    split
    · exact h.owner rfl rfl (fun hnone => hnone) fun hsome _ => ⟨hsome, .inl howner⟩
    · exact h.owner rfl rfl (fun hnone => hnone) fun hsome _ => ⟨hsome, .inl howner⟩

end Callbacks

/-! ### The messages -/

/-- `tryPushDataTrack` is called with these bytes. -/
def DataTrackEvent.hands (cdr : Str) : DataTrackEvent → Bool
  | .handed _ other _ => other == cdr
  | _ => false

/-- The throttle lets these bytes through. -/
def DataTrackEvent.admits (cdr : Str) : DataTrackEvent → Bool
  | .call (.push _ _ other admitted) => other == cdr && admitted
  | _ => false

def DataTrackEvent.call? : DataTrackEvent → Option Publication.Call
  | .call made => some made
  | _ => none

/-- How many messages with these bytes were handed to a track. -/
def handedOn (tr : List DataTrackEvent) (cdr : Str) : Nat := tr.countP (DataTrackEvent.hands cdr)

/-- How many messages with these bytes the throttle has let through. -/
def admitted (tr : List DataTrackEvent) (cdr : Str) : Nat := tr.countP (DataTrackEvent.admits cdr)

/-- How many callbacks are about to hand on a message with these bytes. -/
def DataTrackState.pushing (s : DataTrackState) (cdr : Str) : Nat :=
  s.callbacks.countVal fun place => place == .pushing cdr

/-- Each message that was let through was handed on, or is with a callback. -/
def MessagesKept (tr : List DataTrackEvent) (s : DataTrackState) : Prop :=
  ∀ cdr, handedOn tr cdr + s.pushing cdr = admitted tr cdr

/-- The sections of the publication that is there, from its construction on. -/
structure ThrottleKept (tr : List DataTrackEvent) (s : DataTrackState) : Prop where
  paced : 0 ≤ s.publisher.intervalMs
  none_before : s.publisher.publication = none → tr.filterMap DataTrackEvent.call? = []
  sections : ∀ p, s.publisher.publication = some p →
    Publication.calls.Trace (tr.filterMap DataTrackEvent.call?) ⟨p, s.now⟩

section Messages

variable {node : Node} {tr evs : List DataTrackEvent} {s t : DataTrackState}

/-- A step that hands on nothing and lets nothing through. -/
theorem MessagesKept.aside (h : MessagesKept tr s)
    (hevs : ∀ e ∈ evs, ∀ cdr, e.hands cdr = false ∧ e.admits cdr = false)
    (hpushing : ∀ cdr, t.pushing cdr = s.pushing cdr) : MessagesKept (tr ++ evs) t := by
  intro cdr
  have hhands : evs.countP (DataTrackEvent.hands cdr) = 0 := by
    rw [List.countP_eq_zero]
    exact fun e he => by simp [(hevs e he cdr).1]
  have hadmits : evs.countP (DataTrackEvent.admits cdr) = 0 := by
    rw [List.countP_eq_zero]
    exact fun e he => by simp [(hevs e he cdr).2]
  rw [hpushing cdr, handedOn, admitted, List.countP_append, List.countP_append, hhands, hadmits]
  exact h cdr

/-- A callback goes on to where it has nothing to hand on. -/
theorem pushing_setCallback {thread : ThreadId} {old : CallbackPlace}
    (hold : s.callbacks.lookup thread = some old) (new : CallbackPlace) (cdr : Str)
    (hnew : new ≠ .pushing cdr) :
    (s.setCallback thread new).pushing cdr + (if old = .pushing cdr then 1 else 0) =
      s.pushing cdr := by
  have hreplace := AList.countVal_replace (p := fun place => place == .pushing cdr) (x := new) hold
  unfold DataTrackState.pushing DataTrackState.setCallback
  simpa [hnew] using hreplace

theorem pushing_endCallback {thread : ThreadId} {old : CallbackPlace}
    (hold : s.callbacks.lookup thread = some old) {cdr : Str} (hne : old ≠ .pushing cdr) :
    (s.endCallback thread).pushing cdr = s.pushing cdr := by
  have herase := AList.countVal_erase (p := fun place => place == .pushing cdr) hold
  unfold DataTrackState.pushing DataTrackState.endCallback
  simpa [hne] using herase.symm

theorem MessagesKept.step (h : MessagesKept tr s) (hs : DataTrackStep node s evs t) :
    MessagesKept (tr ++ evs) t := by
  cases hs with
  | publishTrack reply _ howner hnone =>
    cases reply with
    | threw => exact h.aside (by simp [DataTrackState.publishTrack]) fun _ => rfl
    | null => exact h.aside (by simp [DataTrackState.publishTrack]) fun _ => rfl
    | track =>
      refine h.aside ?_ fun _ => rfl
      simp [DataTrackState.publishTrack, DataTrackEvent.hands, DataTrackEvent.admits]
  | subscribe => exact h.aside (by simp) fun _ => rfl
  | abandon throws _ howner =>
    unfold DataTrackState.unpublish
    split
    · exact h.aside (by simp) fun _ => rfl
    · exact h.aside (by simp [DataTrackEvent.hands, DataTrackEvent.admits]) fun _ => rfl
  | setIntervalMs intervalMs _ howner hnonneg =>
    refine h.aside ?_ fun _ => rfl
    unfold DataTrackState.setIntervalMs
    dsimp only
    split
    · simp [DataTrackEvent.hands, DataTrackEvent.admits]
    · simp
  | deliver thread cdr _ hpublished hplace hother =>
    refine h.aside (by simp) fun other => ?_
    have hnot : thread ∉ s.callbacks := by
      rw [← AList.lookup_eq_none]
      exact hplace
    unfold DataTrackState.pushing DataTrackState.setCallback
    rw [AList.countVal_insert_of_notMem hnot]
    rfl
  | enter thread cdr gate _ hplace hgate =>
    refine h.aside (by simp [DataTrackEvent.hands, DataTrackEvent.admits]) fun other => ?_
    exact pushing_setCallback hplace (.entered cdr) other (by simp)
  | refuse thread cdr gate _ hplace hgate =>
    refine h.aside (by simp [DataTrackEvent.hands, DataTrackEvent.admits]) fun other => ?_
    exact pushing_endCallback hplace (by simp)
  | push thread cdr p now _ hplace hp hnow =>
    intro other
    have hkept := h other
    have hreplace := AList.countVal_replace (p := fun place => place == .pushing other)
      (x := if (p.push now cdr).2 then CallbackPlace.pushing cdr else .leaving) hplace
    unfold DataTrackState.push handedOn admitted DataTrackState.pushing
    unfold handedOn admitted DataTrackState.pushing at hkept
    rw [List.countP_append, List.countP_append, ← hkept]
    cases hpassed : (p.push now cdr).2 with
    | true =>
      rw [hpassed] at hreplace
      simp [DataTrackEvent.hands, DataTrackEvent.admits] at hreplace ⊢
      omega
    | false =>
      rw [hpassed] at hreplace
      simp [DataTrackEvent.hands, DataTrackEvent.admits] at hreplace ⊢
      omega
  | tryPush thread cdr accepted _ hplace =>
    intro other
    have hkept := h other
    have hpushing := pushing_setCallback hplace .leaving other (by simp)
    rw [handedOn, admitted, List.countP_append, List.countP_append]
    unfold handedOn admitted at hkept
    simp [DataTrackEvent.hands, DataTrackEvent.admits] at hpushing ⊢
    omega
  | leave thread throws gate _ hplace hgate =>
    refine h.aside (by simp [DataTrackEvent.hands, DataTrackEvent.admits]) fun other => ?_
    exact pushing_endCallback hplace (by simp)
  | destroyUnpublished => exact h.aside (by simp) fun _ => rfl
  | close => exact h.aside (by simp [DataTrackEvent.hands, DataTrackEvent.admits]) fun _ => rfl
  | closed => exact h.aside (by simp [DataTrackEvent.hands, DataTrackEvent.admits]) fun _ => rfl
  | unpublish throws _ howner =>
    unfold DataTrackState.unpublish
    split
    · exact h.aside (by simp) fun _ => rfl
    · exact h.aside (by simp [DataTrackEvent.hands, DataTrackEvent.admits]) fun _ => rfl

/-- A step that is no section of the publication. -/
theorem ThrottleKept.aside (h : ThrottleKept tr s)
    (hevs : evs.filterMap DataTrackEvent.call? = []) (hpublisher : t.publisher = s.publisher)
    (hnow : t.now = s.now) : ThrottleKept (tr ++ evs) t := by
  refine ⟨?_, ?_, ?_⟩
  · rw [hpublisher]
    exact h.paced
  · rw [hpublisher, List.filterMap_append, hevs, List.append_nil]
    exact h.none_before
  · rw [hpublisher, hnow, List.filterMap_append, hevs, List.append_nil]
    exact h.sections

theorem ThrottleKept.subscribe (h : ThrottleKept tr s)
    (hnone : s.publisher.publication = none) (isTransientLocal subscribes : Bool) :
    ThrottleKept tr (s.subscribe node isTransientLocal subscribes) := by
  have hpublisher : s.publisher.publish node ⟨.track, isTransientLocal, subscribes⟩ =
      { s.publisher with
        publication := Publication.create node ⟨.track, isTransientLocal, subscribes⟩
          s.publisher.rosTopic s.publisher.intervalMs } := by
    rw [DataTrackPublisher.publish, hnone]
  unfold DataTrackState.subscribe
  dsimp only
  rw [hpublisher]
  refine ⟨h.paced, fun _ => h.none_before hnone, fun p hp => ?_⟩
  have hcreate : Publication.create node ⟨.track, isTransientLocal, subscribes⟩
      s.publisher.rosTopic s.publisher.intervalMs = some p := hp
  rw [h.none_before hnone]
  exact .start ⟨node, _, _, _, h.paced, hcreate⟩

theorem ThrottleKept.setIntervalMs (h : ThrottleKept tr s) {intervalMs : Int}
    (hnonneg : 0 ≤ intervalMs) :
    ThrottleKept (tr ++ (s.setIntervalMs intervalMs).2) (s.setIntervalMs intervalMs).1 := by
  unfold DataTrackState.setIntervalMs DataTrackPublisher.setIntervalMs DataTrackPublisher.isPublished
  cases hpublication : s.publisher.publication with
  | none =>
    refine ⟨hnonneg, fun _ => ?_, ?_⟩
    · simpa using h.none_before hpublication
    · intro p hp
      cases hp
  | some q =>
    refine ⟨hnonneg, ?_, ?_⟩
    · intro hnone
      cases hnone
    · intro p hp
      obtain rfl := Option.some.inj hp
      dsimp only
      rw [List.filterMap_append]
      exact (h.sections q hpublication).step (Publication.Throttle.setIntervalMs q s.now _ hnonneg)

theorem ThrottleKept.push (h : ThrottleKept tr s) {thread : ThreadId} {p : Publication} {now : Time}
    (cdr : Str) (hp : s.publisher.publication = some p) (hnow : s.now ≤ now) :
    ThrottleKept (tr ++ (s.push thread p now cdr).2) (s.push thread p now cdr).1 := by
  unfold DataTrackState.push DataTrackPublisher.push
  refine ⟨h.paced, ?_, ?_⟩
  · intro hnone
    simp [hp] at hnone
  · intro q hq
    simp only [hp, Option.map_some, Option.some.injEq] at hq
    subst hq
    rw [List.filterMap_append]
    exact (h.sections p hp).step (Publication.Throttle.push p s.now now cdr hnow)

theorem ThrottleKept.step (h : ThrottleKept tr s) (htracks : TracksKept tr s)
    (hs : DataTrackStep node s evs t) : ThrottleKept (tr ++ evs) t := by
  cases hs with
  | publishTrack reply _ howner hnone =>
    cases reply with
    | threw => exact h.aside rfl rfl rfl
    | null => exact h.aside rfl rfl rfl
    | track => exact h.aside rfl rfl rfl
  | subscribe isTransientLocal subscribes _ howner =>
    rw [List.append_nil]
    exact h.subscribe (htracks.building (by rw [howner]; rfl)) isTransientLocal subscribes
  | abandon throws _ howner =>
    unfold DataTrackState.unpublish
    split
    · exact h.aside rfl rfl rfl
    · exact h.aside rfl rfl rfl
  | setIntervalMs intervalMs _ howner hnonneg => exact h.setIntervalMs hnonneg
  | deliver => exact h.aside rfl rfl rfl
  | enter => exact h.aside rfl rfl rfl
  | refuse => exact h.aside rfl rfl rfl
  | push thread cdr p now _ hplace hp hnow => exact h.push cdr hp hnow
  | tryPush => exact h.aside rfl rfl rfl
  | leave => exact h.aside rfl rfl rfl
  | destroyUnpublished => exact h.aside rfl rfl rfl
  | close => exact h.aside rfl rfl rfl
  | closed => exact h.aside rfl rfl rfl
  | unpublish throws _ howner =>
    unfold DataTrackState.unpublish
    split
    · exact h.aside rfl rfl rfl
    · exact h.aside rfl rfl rfl

end Messages

/-! ### Runs -/

section Runs

variable {node : Node} {tr : List DataTrackEvent} {s : DataTrackState}

theorem tracksKept_of_trace (h : (dataTrackMachine node).Trace tr s) : TracksKept tr s := by
  refine Machine.Trace.invariant ?_ ?_ h
  · rintro _ ⟨rosTopic, interfaceType, rfl⟩
    exact .initial rosTopic interfaceType
  · intro tr evs s t _ hkept hs
    exact hkept.step hs

theorem callbacksKept_of_trace (h : (dataTrackMachine node).Trace tr s) : CallbacksKept s := by
  refine Machine.Trace.invariant (P := fun _ s => CallbacksKept s) ?_ ?_ h
  · rintro _ ⟨rosTopic, interfaceType, rfl⟩
    refine ⟨fun _ => rfl, fun _ => rfl, ?_⟩
    intro hpublished
    cases hpublished
  · intro tr evs s t prior hkept hs
    exact hkept.step (tracksKept_of_trace prior)
      (gateBooks_of_trace ((projects_callbackGate node).trace prior)) hs

theorem messagesKept_of_trace (h : (dataTrackMachine node).Trace tr s) : MessagesKept tr s := by
  refine Machine.Trace.invariant ?_ ?_ h
  · rintro _ ⟨rosTopic, interfaceType, rfl⟩ cdr
    rfl
  · intro tr evs s t _ hkept hs
    exact hkept.step hs

theorem throttleKept_of_trace (h : (dataTrackMachine node).Trace tr s) : ThrottleKept tr s := by
  refine Machine.Trace.invariant ?_ ?_ h
  · rintro _ ⟨rosTopic, interfaceType, rfl⟩
    refine ⟨Int.le_refl 0, fun _ => rfl, ?_⟩
    intro p hp
    cases hp
  · intro tr evs s t prior hkept hs
    exact hkept.step (tracksKept_of_trace prior) hs

theorem TracksKept.has_of_live (h : TracksKept tr s) {n : Nat} (hlive : LiveTrack tr n) :
    s.Has n := by
  have hcounted := h.counted n
  have hpublished := List.count_pos_iff.mpr hlive.1
  rw [hlive.2] at hcounted
  by_contra hnot
  rw [if_neg hnot] at hcounted
  omega

theorem TracksKept.live_of_has (h : TracksKept tr s) {n : Nat} (hhas : s.Has n) :
    LiveTrack tr n := by
  have hcounted := h.counted n
  have hnumbered := h.numbered n
  rw [if_pos (h.present n hhas.1)] at hnumbered
  rw [if_pos hhas, hnumbered] at hcounted
  refine ⟨List.count_pos_iff.mp (by omega), by omega⟩

theorem live_of_inside (h : (dataTrackMachine node).Trace tr s) {thread : ThreadId}
    {place : CallbackPlace} (hplace : s.callbacks.lookup thread = some place)
    (hinside : place.isInside = true) : ∃ n, s.track = some n ∧ LiveTrack tr n := by
  have htracks := tracksKept_of_trace h
  have hcallbacks := callbacksKept_of_trace h
  have hpublished := isSome_of_lookup hcallbacks hplace
  have hnot : ¬ (s.owner = .unpublishing ∨ s.owner = .destroyed) := by
    intro hover
    have hcount := hcallbacks.inside thread
    rw [(hcallbacks.shut hpublished hover).2, hplace] at hcount
    simp [insideCount, hinside] at hcount
  have hne : s.owner ≠ .destroyed := fun hdestroyed => hnot (.inr hdestroyed)
  obtain ⟨n, htrack⟩ := Option.isSome_iff_exists.mp ((htracks.held hne).mpr (.inr hpublished))
  exact ⟨n, htrack, htracks.live_of_has ⟨htrack, hne⟩⟩

theorem DataTrackStep.hands {evs : List DataTrackEvent} {t : DataTrackState}
    (hs : DataTrackStep node s evs t) :
    evs.length ≤ 1 ∧ ∀ track cdr accepted, .handed track cdr accepted ∈ evs →
      track = s.track ∧ ∃ thread, s.callbacks.lookup thread = some (.pushing cdr) := by
  cases hs with
  | publishTrack reply _ howner hnone =>
    cases reply <;> simp [DataTrackState.publishTrack]
  | setIntervalMs intervalMs _ howner hnonneg =>
    unfold DataTrackState.setIntervalMs
    dsimp only
    split <;> simp
  | abandon throws _ howner =>
    unfold DataTrackState.unpublish
    split <;> simp
  | unpublish throws _ howner =>
    unfold DataTrackState.unpublish
    split <;> simp
  | push thread cdr p now _ hplace hp hnow => simp [DataTrackState.push]
  | tryPush thread cdr accepted _ hplace =>
    refine ⟨Nat.le_refl 1, ?_⟩
    intro track other accepted' hmem
    obtain ⟨rfl, rfl, -⟩ := DataTrackEvent.handed.inj (List.mem_singleton.mp hmem)
    exact ⟨rfl, thread, hplace⟩
  | _ => simp

/-- **The tracks of a publisher.**  However the owner and the callbacks follow each other: no track
is unpublished twice, one is live at most, and none when the publisher is destroyed; and what is
handed on is handed to a track that is live. -/
theorem data_tracks_in_order (h : (dataTrackMachine node).Trace tr s) :
    (∀ n, tr.count (.published n) ≤ 1 ∧ unpublishCalls tr n ≤ tr.count (.published n)) ∧
    (∀ n m, LiveTrack tr n → LiveTrack tr m → n = m) ∧
    (s.owner = .destroyed → ∀ n, ¬ LiveTrack tr n) ∧
    ∀ pre track cdr accepted post, tr = pre ++ .handed track cdr accepted :: post →
      ∃ n, track = some n ∧ LiveTrack pre n := by
  have htracks := tracksKept_of_trace h
  refine ⟨fun n => ⟨?_, ?_⟩, ?_, ?_, ?_⟩
  · rw [htracks.numbered n]
    split <;> decide
  · have hcounted := htracks.counted n
    omega
  · intro n m hn hm
    have hhas := (htracks.has_of_live hn).1
    rw [(htracks.has_of_live hm).1] at hhas
    exact (Option.some.inj hhas).symm
  · intro hdestroyed n hlive
    exact (htracks.has_of_live hlive).2 hdestroyed
  · have hevent : ∀ pre e post, tr = pre ++ e :: post → ∀ track cdr accepted,
        e = .handed track cdr accepted → ∃ n, track = some n ∧ LiveTrack pre n := by
      refine Machine.Trace.at_single_event (M := dataTrackMachine node) ?_ h
      intro tr evs s t prior hs
      obtain ⟨hsingle, hhands⟩ := DataTrackStep.hands hs
      refine ⟨hsingle, ?_⟩
      rintro _ hmem track cdr accepted rfl
      obtain ⟨rfl, thread, hplace⟩ := hhands track cdr accepted hmem
      exact live_of_inside prior hplace rfl
    exact fun pre track cdr accepted post heq => hevent pre _ post heq track cdr accepted rfl

/-- **The messages of a publisher.**  However the owner and the callbacks follow each other: what
the throttle lets through is handed on once, or a callback has yet to hand it on, and when the
publisher is destroyed nothing is left to hand on; and the sections of `push` and `setIntervalMs`
are those of one publication, one after the other. -/
theorem messages_handed_once (h : (dataTrackMachine node).Trace tr s) :
    (∀ cdr, handedOn tr cdr + s.pushing cdr = admitted tr cdr) ∧
    (s.owner = .destroyed → ∀ cdr, handedOn tr cdr = admitted tr cdr) ∧
    ∀ p, s.publisher.publication = some p →
      Publication.calls.Trace (tr.filterMap DataTrackEvent.call?) ⟨p, s.now⟩ := by
  have hmessages := messagesKept_of_trace h
  refine ⟨hmessages, fun hdestroyed cdr => ?_, (throttleKept_of_trace h).sections⟩
  have hnone : s.pushing cdr = 0 := by
    refine AList.countVal_eq_zero.mpr fun e he => ?_
    rw [beq_eq_false_iff_ne]
    intro hplace
    have hlookup : s.callbacks.lookup e.1 = some (.pushing cdr) := by
      rw [← hplace]
      exact AList.mem_lookup_iff.mpr he
    obtain ⟨n, htrack, hlive⟩ := live_of_inside h hlookup rfl
    exact ((tracksKept_of_trace h).has_of_live hlive).2 hdestroyed
  have hkept := hmessages cdr
  omega

/-- A node without remap rules. -/
def plainNode : Node := ⟨lit "bridge", lit "/", fun name _ _ _ => .ok name, id⟩

/-- The first subscription fails; on the second track a message is handed on while the destructor
waits. -/
def handedWhileClosing : List DataTrackEvent :=
  [.published 0, .unpublished 0 false, .published 1, .gate (.entered 1),
    .call (.push 5 0 (lit "m") true), .gate (.closing 0 2 .allCallbacks),
    .handed (some 1) (lit "m") true, .gate (.left 1 false),
    .gate (.closed 0 2 .allCallbacks true), .unpublished 1 true]

theorem trace_handedWhileClosing :
    ∃ s, (dataTrackMachine plainNode).Trace handedWhileClosing s ∧ s.owner = .destroyed := by
  have h0 : (dataTrackMachine plainNode).Trace [] (.initial (lit "/t") (lit "T")) :=
    .start ⟨_, _, rfl⟩
  have h1 := h0.step (DataTrackStep.publishTrack .track _ rfl rfl)
  have h2 := h1.step (DataTrackStep.subscribe true false _ rfl)
  have h3 := h2.step (DataTrackStep.abandon false _ rfl)
  have h4 := h3.step (DataTrackStep.publishTrack .track _ rfl rfl)
  have h5 := h4.step (DataTrackStep.subscribe true true _ rfl)
  have h6 := h5.step (DataTrackStep.deliver 1 (lit "m") _ rfl rfl (by intro hc; cases hc))
  have h7 := h6.step (DataTrackStep.enter 1 (lit "m") _ _ rfl
    (GateStep.enter 1 _ _ (by intro c hc; cases hc) rfl))
  have h8 := h7.step (DataTrackStep.push 1 (lit "m") _ 5 _ rfl rfl (Nat.zero_le 5))
  have h9 := h8.step (DataTrackStep.close 2 0 _ _ rfl rfl rfl
    (GateStep.closeAndWait 2 .allCallbacks _ (by intro c hc; cases hc)))
  have h10 := h9.step (DataTrackStep.tryPush 1 (lit "m") true _ rfl)
  have h11 := h10.step (DataTrackStep.leave 1 false _ _ rfl
    (GateStep.leave 1 false _ [(2, .waiting 0 .allCallbacks true)] [] 1 (by simp)))
  have h12 := h11.step (DataTrackStep.closed 2 0 true _ _ rfl
    (GateStep.wake 2 0 .allCallbacks true _ [] [] 1 (by simp) rfl))
  have h13 := h12.step (DataTrackStep.unpublish true _ rfl)
  exact ⟨_, h13, rfl⟩

theorem data_tracks_in_order_closing :
    (∀ n, ¬ LiveTrack handedWhileClosing n) ∧
      ∃ n, some 1 = some n ∧ LiveTrack (handedWhileClosing.take 6) n := by
  obtain ⟨s, h, hdestroyed⟩ := trace_handedWhileClosing
  obtain ⟨-, -, hover, hhanded⟩ := data_tracks_in_order h
  exact ⟨hover hdestroyed, hhanded _ (some 1) (lit "m") true _ rfl⟩

theorem messages_handed_once_closing :
    handedOn handedWhileClosing (lit "m") = admitted handedWhileClosing (lit "m") := by
  obtain ⟨s, h, hdestroyed⟩ := trace_handedWhileClosing
  exact (messages_handed_once h).2.1 hdestroyed (lit "m")

end Runs

end LivekitBridge
