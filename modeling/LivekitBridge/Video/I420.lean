import LivekitBridge.Lib.Fallible
import LivekitBridge.Lib.Memory
import LivekitBridge.Text
import Mathlib.Data.List.Pairwise

/-!
# Unpacking a sample

`video/gstreamer_pipeline.cpp`: a sample that the appsink has pulled becomes a `livekit::VideoFrame`.
GStreamer pads the rows of a plane, and LiveKit wants them one after the other, so that the planes
are copied row by row.

The pointers of GStreamer and of LiveKit are `none` if they are null.  A component points into memory
that it may be read from, and a plane to a place in the memory of its frame; what the two libraries
promise of these is `Component.Covers` and `LaysOut`.  A copy that left the memories would be
`FrameFault.outOfBounds`.

`copyPlanes_eq_ok` is by induction on the planes that have yet to be copied: the planes do not meet,
and so what a copy has written stays.
-/

namespace LivekitBridge

open Lib Lib.Memory

namespace Video

/-- `GST_VIDEO_FORMAT_I420` -/
def kFormatI420 : Nat := 2

/-- `GstVideoInfo` -/
structure VideoInfo where
  format : Nat
  width : Int32
  height : Int32
deriving DecidableEq, Repr

/-- A component of a mapped `GstVideoFrame`: `GST_VIDEO_FRAME_COMP_DATA` and so on. -/
structure Component where
  data : Option (List UInt8)
  stride : Int32
  width : Int32
  height : Int32
deriving DecidableEq, Repr

/-- A `GstSample`: the caps, parsed if they can be, and the buffer, mapped if it can be. -/
structure Sample where
  caps : Option (Option VideoInfo)
  hasBuffer : Bool
  mapping : Option (Nat → Component)

structure VideoPlaneInfo where
  dataPtr : Option Nat
  stride : Nat
  size : Nat
deriving DecidableEq, Repr

structure VideoFrame where
  data : List UInt8
  planeInfos : List VideoPlaneInfo
deriving DecidableEq, Repr

/-- Why there is no frame. -/
inductive FrameFault
  /-- A `std::exception`. -/
  | thrown (what : Str)
  /-- A copy outside of the memories. -/
  | outOfBounds
deriving DecidableEq, Repr

/-- `static_cast<std::size_t>` -/
def toSizeT (x : Int32) : Nat := (x.toInt % 18446744073709551616).toNat

/-- `if (bad) throw std::runtime_error(what);` -/
def refuseIf (bad : Prop) [Decidable bad] (what : String) : Except FrameFault Unit :=
  if bad then .error (.thrown (lit what)) else .ok ()

/-- The same for a null pointer, or for a call that failed. -/
def orThrow {α : Type} (found : Option α) (what : String) : Except FrameFault α :=
  found.elim (.error (.thrown (lit what))) .ok

def validateI420Plane (component : Component) (plane : VideoPlaneInfo) : Except FrameFault Unit := do
  refuseIf (plane.stride = 0 ∨ plane.size % plane.stride ≠ 0) "LiveKit I420 plane layout is invalid."
  let height := plane.size / plane.stride
  refuseIf (toSizeT component.width ≠ plane.stride ∨ toSizeT component.height ≠ height)
    "Unexpected I420 plane dimensions from GStreamer."

/-- `copyI420Plane`, with the memory of the frame. -/
def copyI420Plane (component : Component) (plane : VideoPlaneInfo) (memory : List UInt8) :
    Except FrameFault (List UInt8) := do
  let src ← orThrow component.data "I420 frame plane data is unavailable."
  refuseIf (component.stride < 0 ∨ component.width ≤ 0 ∨ component.height ≤ 0)
    "I420 frame plane layout is invalid."
  let dst ← orThrow plane.dataPtr "LiveKit I420 plane data is unavailable."
  refuseIf (plane.stride < toSizeT component.width ∨ component.stride < component.width)
    "I420 frame plane stride is unsupported."
  (copyRows src (toSizeT component.stride) dst plane.stride (toSizeT component.width)
    component.height.toInt.toNat memory).elim (.error .outOfBounds) .ok

/-- `unpackI420Frame`; `create` is `livekit::VideoFrame::create`. -/
def unpackI420Frame (create : Int32 → Int32 → Except Str VideoFrame) (sample : Sample) :
    Except FrameFault VideoFrame := do
  let caps ← orThrow (if sample.hasBuffer then sample.caps else none)
    "GStreamer sample is missing caps or buffer."
  let info ← orThrow caps "Failed to parse GStreamer video caps."
  refuseIf (info.format ≠ kFormatI420) "Video pipeline did not output I420 frames."
  refuseIf (info.width ≤ 0 ∨ info.height ≤ 0) "I420 sample dimensions are invalid."
  let component ← orThrow sample.mapping "Failed to map GStreamer video frame."
  let frame ← (create info.width info.height).mapError .thrown
  match frame.planeInfos with
  | [plane₀, plane₁, plane₂] => do
    validateI420Plane (component 0) plane₀
    validateI420Plane (component 1) plane₁
    validateI420Plane (component 2) plane₂
    let data ← copyI420Plane (component 0) plane₀ frame.data
    let data ← copyI420Plane (component 1) plane₁ data
    let data ← copyI420Plane (component 2) plane₂ data
    return { frame with data := data }
  | _ => .error (.thrown (lit "LiveKit I420 plane layout is invalid."))

/-! ### What the libraries promise -/

/-- A mapped component has its last row: `gst_video_frame_map` fails for a buffer that is too small
for its layout. -/
def Component.Covers (component : Component) : Prop :=
  ∀ src, component.data = some src → 0 ≤ component.stride.toInt → 0 < component.height.toInt →
    (component.height.toInt - 1) * component.stride.toInt + component.width.toInt ≤ src.length

/-- The planes do not meet. -/
def VideoPlaneInfo.Apart (plane other : VideoPlaneInfo) : Prop :=
  ∀ base base', plane.dataPtr = some base → other.dataPtr = some base' →
    base + plane.size ≤ base' ∨ base' + other.size ≤ base

/-- The planes are inside the memory of the frame, apart from each other. -/
structure VideoFrame.LaidOut (frame : VideoFrame) : Prop where
  inside : ∀ plane ∈ frame.planeInfos, ∀ base, plane.dataPtr = some base →
    base + plane.size ≤ frame.data.length
  apart : frame.planeInfos.Pairwise VideoPlaneInfo.Apart

/-- `livekit::VideoFrame::create` returns such frames. -/
def LaysOut (create : Int32 → Int32 → Except Str VideoFrame) : Prop :=
  ∀ width height frame, create width height = .ok frame → frame.LaidOut

/-! ### The checks -/

section Checks

variable {what : String} {component : Component} {plane : VideoPlaneInfo}

theorem refuseIf_eq_ok {bad : Prop} [Decidable bad] {u : Unit} :
    refuseIf bad what = .ok u ↔ ¬ bad := by
  unfold refuseIf
  by_cases hbad : bad
  · simp [hbad]
  · simp [hbad]

theorem orThrow_eq_ok {α : Type} {found : Option α} {a : α} :
    orThrow found what = .ok a ↔ found = some a := by
  cases found with
  | none => simp [orThrow]
  | some b => simp [orThrow]

/-- The checks of `validateI420Plane`. -/
structure Validated (component : Component) (plane : VideoPlaneInfo) : Prop where
  stride : plane.stride ≠ 0
  whole : plane.size % plane.stride = 0
  width : toSizeT component.width = plane.stride
  height : toSizeT component.height = plane.size / plane.stride

/-- The checks of `copyI420Plane`. -/
structure Copyable (component : Component) (plane : VideoPlaneInfo) : Prop where
  src : component.data.isSome = true
  layout : 0 ≤ component.stride.toInt ∧ 0 < component.width.toInt ∧ 0 < component.height.toInt
  dst : plane.dataPtr.isSome = true
  stride : toSizeT component.width ≤ plane.stride ∧ component.width.toInt ≤ component.stride.toInt

theorem validateI420Plane_eq_ok {u : Unit} :
    validateI420Plane component plane = .ok u ↔ Validated component plane := by
  unfold validateI420Plane
  simp only [bind_eq_ok, refuseIf_eq_ok, not_or, not_not]
  constructor
  · rintro ⟨_, ⟨hstride, hwhole⟩, hwidth, hheight⟩
    exact ⟨hstride, hwhole, hwidth, hheight⟩
  · intro h
    exact ⟨(), ⟨h.stride, h.whole⟩, h.width, h.height⟩

theorem toSizeT_of_nonneg {x : Int32} (h : 0 ≤ x.toInt) : (toSizeT x : Int) = x.toInt := by
  have hlt := x.toInt_lt
  rw [toSizeT, Int.emod_eq_of_lt h (by omega), Int.toNat_of_nonneg h]

/-- The rows of a component, as LiveKit wants them. -/
def Component.picture (component : Component) (plane : VideoPlaneInfo) : List UInt8 :=
  packed (component.data.getD []) (toSizeT component.stride) plane.stride (plane.size / plane.stride)

theorem Component.Covers.rows (h : component.Covers) (hvalid : Validated component plane)
    (hcopy : Copyable component plane) :
    ∀ row < plane.size / plane.stride,
      row * toSizeT component.stride + plane.stride ≤ (component.data.getD []).length := by
  obtain ⟨src, hsrc⟩ := Option.isSome_iff_exists.mp hcopy.src
  obtain ⟨hstride, hwidth, hheight⟩ := hcopy.layout
  have hcovers := h src hsrc hstride hheight
  rw [← toSizeT_of_nonneg hstride, ← toSizeT_of_nonneg (Int.le_of_lt hwidth), ← toSizeT_of_nonneg (Int.le_of_lt hheight),
    hvalid.width, hvalid.height] at hcovers
  rw [hsrc, Option.getD_some]
  intro row hrow
  obtain ⟨last, hlast⟩ := Nat.exists_eq_add_one_of_ne_zero (Nat.ne_zero_of_lt hrow)
  have hmul : row * toSizeT component.stride ≤ last * toSizeT component.stride :=
    Nat.mul_le_mul_right _ (by omega)
  rw [hlast] at hcovers
  have hcovers : last * toSizeT component.stride + plane.stride ≤ src.length := by
    have hsub : ((last + 1 : Nat) : Int) - 1 = last := by omega
    rw [hsub] at hcovers
    exact_mod_cast hcovers
  omega

theorem length_picture (hcovers : component.Covers) (hvalid : Validated component plane)
    (hcopy : Copyable component plane) : (component.picture plane).length = plane.size := by
  rw [Component.picture, length_packed (hcovers.rows hvalid hcopy)]
  exact Nat.div_mul_cancel (Nat.dvd_of_mod_eq_zero hvalid.whole)

/-- A plane that passes the checks is copied. -/
theorem copyI420Plane_eq_ok (hcovers : component.Covers) (hvalid : Validated component plane)
    (hcopy : Copyable component plane) {base : Nat} (hbase : plane.dataPtr = some base)
    {memory : List UInt8} (hinside : base + plane.size ≤ memory.length) :
    copyI420Plane component plane memory =
      .ok (overwrite memory base (component.picture plane)) := by
  obtain ⟨src, hsrc⟩ := Option.isSome_iff_exists.mp hcopy.src
  obtain ⟨hstride, hwidth, hheight⟩ := hcopy.layout
  have hrows := hcovers.rows hvalid hcopy
  rw [hsrc, Option.getD_some] at hrows
  have hcount : component.height.toInt.toNat = plane.size / plane.stride := by
    have hcast := toSizeT_of_nonneg (Int.le_of_lt hheight)
    rw [hvalid.height] at hcast
    omega
  have hsize : plane.size / plane.stride * plane.stride = plane.size :=
    Nat.div_mul_cancel (Nat.dvd_of_mod_eq_zero hvalid.whole)
  have hlayout : ¬ (component.stride < 0 ∨ component.width ≤ 0 ∨ component.height ≤ 0) := by
    simp only [Int32.lt_iff_toInt_lt, Int32.le_iff_toInt_le]
    show ¬ (_ < (0 : Int) ∨ _ ≤ (0 : Int) ∨ _ ≤ (0 : Int))
    omega
  have hfits : ¬ (plane.stride < toSizeT component.width ∨ component.stride < component.width) := by
    rw [Int32.lt_iff_toInt_lt]
    obtain ⟨hle, hle'⟩ := hcopy.stride
    omega
  unfold copyI420Plane
  rw [hsrc, hbase, refuseIf, if_neg hlayout, refuseIf, if_neg hfits, hvalid.width, hcount]
  simp only [orThrow, Option.elim_some]
  show (copyRows src _ base plane.stride plane.stride _ memory).elim _ _ = _
  rw [copyRows_eq hrows (by omega), Component.picture, hsrc]
  rfl

theorem copyI420Plane_refused (h : ¬ Copyable component plane) (memory : List UInt8) :
    ∃ what, copyI420Plane component plane memory = .error (.thrown what) := by
  unfold copyI420Plane
  cases hsrc : component.data with
  | none => exact ⟨_, rfl⟩
  | some src =>
    by_cases hlayout : component.stride < 0 ∨ component.width ≤ 0 ∨ component.height ≤ 0
    · rw [refuseIf, if_pos hlayout]
      exact ⟨_, rfl⟩
    · rw [refuseIf, if_neg hlayout]
      cases hdst : plane.dataPtr with
      | none => exact ⟨_, rfl⟩
      | some dst =>
        by_cases hfits : plane.stride < toSizeT component.width ∨ component.stride < component.width
        · rw [refuseIf, if_pos hfits]
          exact ⟨_, rfl⟩
        · rw [not_or, not_or, Int32.not_lt, Int32.not_le, Int32.not_le] at hlayout
          rw [not_or, Int32.not_lt] at hfits
          simp only [Int32.lt_iff_toInt_lt, Int32.le_iff_toInt_le] at hlayout hfits
          exact absurd ⟨by rw [hsrc]; rfl, hlayout, by rw [hdst]; rfl, Nat.not_lt.mp hfits.1, hfits.2⟩ h

end Checks

/-! ### The planes of a frame -/

/-- The copies of `unpackI420Frame`. -/
def copyPlanes (planes : List (Component × VideoPlaneInfo)) (memory : List UInt8) :
    Except FrameFault (List UInt8) :=
  planes.foldlM (fun memory plane => copyI420Plane plane.1 plane.2 memory) memory

/-- The block meets none of the planes. -/
def Beside (planes : List (Component × VideoPlaneInfo)) (start n : Nat) : Prop :=
  ∀ plane ∈ planes, ∀ base, plane.2.dataPtr = some base →
    start + n ≤ base ∨ base + plane.2.size ≤ start

/-- `after` is `before` with these planes, and nothing else, written. -/
structure Written (planes : List (Component × VideoPlaneInfo)) (before after : List UInt8) :
    Prop where
  length : after.length = before.length
  holds : ∀ plane ∈ planes, ∀ base, plane.2.dataPtr = some base →
    slice after base plane.2.size = plane.1.picture plane.2
  rest : ∀ start n, Beside planes start n → slice after start n = slice before start n

section Planes

variable {planes : List (Component × VideoPlaneInfo)} {memory : List UInt8}

/-- Each plane passes the checks of `validateI420Plane`, and is inside the memory. -/
structure Sound (planes : List (Component × VideoPlaneInfo)) (memory : List UInt8) : Prop where
  covers : ∀ plane ∈ planes, plane.1.Covers
  valid : ∀ plane ∈ planes, Validated plane.1 plane.2
  inside : ∀ plane ∈ planes, ∀ base, plane.2.dataPtr = some base →
    base + plane.2.size ≤ memory.length
  apart : planes.Pairwise fun plane other => plane.2.Apart other.2

/-- **All planes are copied, if each of them can be.** -/
theorem copyPlanes_eq_ok (hsound : Sound planes memory)
    (hcopy : ∀ plane ∈ planes, Copyable plane.1 plane.2) :
    ∃ after, copyPlanes planes memory = .ok after ∧ Written planes memory after := by
  induction planes generalizing memory with
  | nil => exact ⟨memory, rfl, rfl, by simp, fun _ _ _ => rfl⟩
  | cons plane planes ih =>
    obtain ⟨hcovers, hvalid, hinside, hpairwise⟩ := hsound
    rw [List.forall_mem_cons] at hcovers hvalid hinside hcopy
    rw [List.pairwise_cons] at hpairwise
    obtain ⟨base, hbase⟩ := Option.isSome_iff_exists.mp hcopy.1.dst
    have hpicture := length_picture hcovers.1 hvalid.1 hcopy.1
    have hfirst := copyI420Plane_eq_ok hcovers.1 hvalid.1 hcopy.1 hbase (hinside.1 base hbase)
    have hroom : base + (plane.1.picture plane.2).length ≤ memory.length := by
      rw [hpicture]
      exact hinside.1 base hbase
    have hlength := length_overwrite hroom
    obtain ⟨after, hrest, hwritten⟩ :=
      ih ⟨hcovers.2, hvalid.2, by rw [hlength]; exact hinside.2, hpairwise.2⟩ hcopy.2
    refine ⟨after, ?_, hwritten.length.trans hlength, ?_, ?_⟩
    · show (copyI420Plane plane.1 plane.2 memory >>= copyPlanes planes) = _
      rw [hfirst]
      exact hrest
    · rw [List.forall_mem_cons]
      refine ⟨fun base' hbase' => ?_, hwritten.holds⟩
      obtain rfl := Option.some.inj (hbase.symm.trans hbase')
      -- the copies that follow are beside this plane
      have hbeside : Beside planes base plane.2.size :=
        fun other hother base' hbase' => hpairwise.1 other hother base base' hbase hbase'
      rw [hwritten.rest base _ hbeside, ← hpicture]
      exact slice_overwrite_self hroom
    · intro start n hbeside
      rw [hwritten.rest start n fun other hother => hbeside other (List.mem_cons_of_mem _ hother)]
      refine slice_overwrite_of_disjoint hroom ?_
      rw [hpicture]
      exact hbeside plane List.mem_cons_self base hbase

theorem copyPlanes_refused (hsound : Sound planes memory)
    (hcopy : ¬ ∀ plane ∈ planes, Copyable plane.1 plane.2) :
    ∃ what, copyPlanes planes memory = .error (.thrown what) := by
  induction planes generalizing memory with
  | nil => exact absurd (by simp) hcopy
  | cons plane planes ih =>
    show ∃ what, (copyI420Plane plane.1 plane.2 memory >>= copyPlanes planes) = _
    by_cases hfirst : Copyable plane.1 plane.2
    · obtain ⟨hcovers, hvalid, hinside, hpairwise⟩ := hsound
      rw [List.forall_mem_cons] at hcovers hvalid hinside hcopy
      obtain ⟨base, hbase⟩ := Option.isSome_iff_exists.mp hfirst.dst
      rw [copyI420Plane_eq_ok hcovers.1 hvalid.1 hfirst hbase (hinside.1 base hbase)]
      refine ih ⟨hcovers.2, hvalid.2, ?_, (List.pairwise_cons.mp hpairwise).2⟩
        fun hothers => hcopy ⟨hfirst, hothers⟩
      rw [length_overwrite]
      · exact hinside.2
      · rw [length_picture hcovers.1 hvalid.1 hfirst]
        exact hinside.1 base hbase
    · obtain ⟨what, hwhat⟩ := copyI420Plane_refused hfirst memory
      rw [hwhat]
      exact ⟨what, rfl⟩

end Planes

/-! ### A sample -/

/-- The sample shows an I420 picture, and `made` is LiveKit's frame for it; the planes are those of
the picture with those of the frame. -/
structure Shows (create : Int32 → Int32 → Except Str VideoFrame) (sample : Sample)
    (made : VideoFrame) (planes : List (Component × VideoPlaneInfo)) : Prop where
  buffer : sample.hasBuffer = true
  caps : ∃ info, sample.caps = some (some info) ∧ info.format = kFormatI420 ∧
    0 < info.width ∧ 0 < info.height ∧ create info.width info.height = .ok made
  mapping : ∃ component plane₀ plane₁ plane₂, sample.mapping = some component ∧
    made.planeInfos = [plane₀, plane₁, plane₂] ∧
    planes = [(component 0, plane₀), (component 1, plane₁), (component 2, plane₂)]
  valid : ∀ plane ∈ planes, Validated plane.1 plane.2

section Unpack

variable {create : Int32 → Int32 → Except Str VideoFrame} {sample : Sample}

/-- Up to the copies. -/
theorem unpackI420Frame_eq {made : VideoFrame} {planes : List (Component × VideoPlaneInfo)}
    (h : Shows create sample made planes) :
    unpackI420Frame create sample =
      (copyPlanes planes made.data).map fun data => { made with data := data } := by
  obtain ⟨info, hcaps, hformat, hwidth, hheight, hmade⟩ := h.caps
  obtain ⟨component, plane₀, plane₁, plane₂, hmapping, hinfos, rfl⟩ := h.mapping
  have hpositive : ¬ (info.width ≤ 0 ∨ info.height ≤ 0) := by
    rw [not_or, Int32.not_le, Int32.not_le]
    exact ⟨hwidth, hheight⟩
  have hvalidate : ∀ plane ∈ [(component 0, plane₀), (component 1, plane₁), (component 2, plane₂)],
      validateI420Plane plane.1 plane.2 = .ok () :=
    fun plane hplane => validateI420Plane_eq_ok.mpr (h.valid plane hplane)
  simp only [List.forall_mem_cons] at hvalidate
  obtain ⟨hvalidate₀, hvalidate₁, hvalidate₂, -⟩ := hvalidate
  have hcreate : (create info.width info.height).mapError FrameFault.thrown = .ok made := by
    rw [hmade]
    rfl
  have hbind : ∀ {α β : Type} (a : α) (f : α → Except FrameFault β), (Except.ok a >>= f) = f a :=
    fun _ _ => rfl
  unfold unpackI420Frame
  simp only [h.buffer, hcaps, hmapping, orThrow, refuseIf, hformat, hpositive, hcreate, if_true,
    if_false, ne_eq, not_true_eq_false, Option.elim_some, hbind, hinfos, hvalidate₀, hvalidate₁,
    hvalidate₂, copyPlanes, List.foldlM_cons, List.foldlM_nil]
  cases copyI420Plane (component 0) plane₀ made.data with
  | error e => rfl
  | ok data =>
    cases hsecond : copyI420Plane (component 1) plane₁ data with
    | error e => simp [hbind, hsecond]; rfl
    | ok data' =>
      cases hthird : copyI420Plane (component 2) plane₂ data' with
      | error e => simp [hbind, hsecond, hthird]; rfl
      | ok data'' => simp [hbind, hsecond, hthird]; rfl

/-- A check that refuses or returns, and what follows it. -/
theorem refused_or_bind {α β : Type} {P : Prop} {x : Except FrameFault α}
    {f : α → Except FrameFault β} (hx : (∃ what, x = .error (.thrown what)) ∨ ∃ a, x = .ok a)
    (hf : ∀ a, x = .ok a → (∃ what, f a = .error (.thrown what)) ∨ P) :
    (∃ what, (x >>= f) = .error (.thrown what)) ∨ P := by
  rcases hx with ⟨what, rfl⟩ | ⟨a, rfl⟩
  · exact .inl ⟨what, rfl⟩
  · exact hf a rfl

theorem refuseIf_cases (bad : Prop) [Decidable bad] (what : String) :
    (∃ text, refuseIf bad what = .error (.thrown text)) ∨ ∃ u, refuseIf bad what = .ok u := by
  unfold refuseIf
  split
  · exact .inl ⟨_, rfl⟩
  · exact .inr ⟨_, rfl⟩

theorem orThrow_cases {α : Type} (found : Option α) (what : String) :
    (∃ text, orThrow found what = .error (.thrown text)) ∨ ∃ a, orThrow found what = .ok a := by
  cases found with
  | none => exact .inl ⟨_, rfl⟩
  | some a => exact .inr ⟨a, rfl⟩

theorem validateI420Plane_cases (component : Component) (plane : VideoPlaneInfo) :
    (∃ text, validateI420Plane component plane = .error (.thrown text)) ∨
      ∃ u, validateI420Plane component plane = .ok u := by
  unfold validateI420Plane
  rcases refuseIf_cases (plane.stride = 0 ∨ plane.size % plane.stride ≠ 0)
    "LiveKit I420 plane layout is invalid." with ⟨text, h⟩ | ⟨u, h⟩
  · rw [h]
    exact .inl ⟨text, rfl⟩
  · rw [h]
    exact refuseIf_cases _ _

theorem refused_or_shows (create : Int32 → Int32 → Except Str VideoFrame) (sample : Sample) :
    (∃ what, unpackI420Frame create sample = .error (.thrown what)) ∨
      ∃ made planes, Shows create sample made planes := by
  refine refused_or_bind (orThrow_cases _ _) fun caps hcaps => ?_
  refine refused_or_bind (orThrow_cases _ _) fun info hinfo => ?_
  refine refused_or_bind (refuseIf_cases _ _) fun _ hformat => ?_
  refine refused_or_bind (refuseIf_cases _ _) fun _ hpositive => ?_
  refine refused_or_bind (orThrow_cases _ _) fun component hmapping => ?_
  have hcreate : (∃ what, (create info.width info.height).mapError FrameFault.thrown =
      .error (.thrown what)) ∨
        ∃ made, (create info.width info.height).mapError FrameFault.thrown = .ok made := by
    cases create info.width info.height with
    | error what => exact .inl ⟨what, rfl⟩
    | ok made => exact .inr ⟨made, rfl⟩
  refine refused_or_bind hcreate fun made hmade => ?_
  split
  · rename_i plane₀ plane₁ plane₂ hinfos
    refine refused_or_bind (validateI420Plane_cases _ _) fun _ hvalid₀ => ?_
    refine refused_or_bind (validateI420Plane_cases _ _) fun _ hvalid₁ => ?_
    refine refused_or_bind (validateI420Plane_cases _ _) fun _ hvalid₂ => ?_
    right
    rw [orThrow_eq_ok] at hcaps hinfo hmapping
    rw [refuseIf_eq_ok] at hformat hpositive
    rw [not_or, Int32.not_le, Int32.not_le] at hpositive
    rw [validateI420Plane_eq_ok] at hvalid₀ hvalid₁ hvalid₂
    subst hinfo
    refine ⟨made, _, ?_, ⟨info, ?_, not_not.mp hformat, hpositive.1, hpositive.2, ?_⟩,
      ⟨component, plane₀, plane₁, plane₂, hmapping, hinfos, rfl⟩, ?_⟩
    · cases hbuffer : sample.hasBuffer with
      | true => rfl
      | false => simp [hbuffer] at hcaps
    · split at hcaps
      · exact hcaps
      · cases hcaps
    · cases hresult : create info.width info.height with
      | error what =>
        rw [hresult] at hmade
        cases hmade
      | ok frame =>
        rw [hresult] at hmade
        obtain rfl := Except.ok.inj hmade
        rfl
    · simp [hvalid₀, hvalid₁, hvalid₂]
  · exact .inl ⟨_, rfl⟩

theorem Shows.sound {made : VideoFrame} {planes : List (Component × VideoPlaneInfo)}
    (h : Shows create sample made planes) (hcreate : LaysOut create)
    (hcovers : ∀ component, sample.mapping = some component → ∀ i, (component i).Covers) :
    Sound planes made.data := by
  obtain ⟨info, -, -, -, -, hmade⟩ := h.caps
  obtain ⟨component, plane₀, plane₁, plane₂, hmapping, hinfos, rfl⟩ := h.mapping
  have hlaid := hcreate _ _ _ hmade
  have hinside := hlaid.inside
  have hapart := hlaid.apart
  rw [hinfos] at hinside hapart
  refine ⟨?_, h.valid, ?_, ?_⟩
  · simp [hcovers component hmapping]
  · simpa using hinside
  · simpa using hapart

/-- **A sample becomes a frame.**  With a mapping and a frame as the libraries promise them, no copy
leaves the memories; a sample is unpacked exactly if it shows an I420 picture whose planes are those
that LiveKit has for it and can be copied; and then each plane of the frame holds the rows of its
component, without the padding, and the rest of the memory is as it was. -/
theorem unpackI420Frame_spec (hcreate : LaysOut create)
    (hcovers : ∀ component, sample.mapping = some component → ∀ i, (component i).Covers) :
    unpackI420Frame create sample ≠ .error .outOfBounds ∧
    ((∃ frame, unpackI420Frame create sample = .ok frame) ↔
      ∃ made planes, Shows create sample made planes ∧ ∀ plane ∈ planes, Copyable plane.1 plane.2) ∧
    ∀ frame, unpackI420Frame create sample = .ok frame →
      ∃ made planes, Shows create sample made planes ∧ (∀ plane ∈ planes, Copyable plane.1 plane.2) ∧
        frame.planeInfos = made.planeInfos ∧ Written planes made.data frame.data := by
  -- what a sample that shows a picture becomes
  have hcopied : ∀ {made planes}, Shows create sample made planes →
      (∀ plane ∈ planes, Copyable plane.1 plane.2) →
        ∃ frame, unpackI420Frame create sample = .ok frame ∧ frame.planeInfos = made.planeInfos ∧
          Written planes made.data frame.data := by
    intro made planes hshows hcopy
    obtain ⟨data, hdata, hwritten⟩ := copyPlanes_eq_ok (hshows.sound hcreate hcovers) hcopy
    refine ⟨{ made with data := data }, ?_, rfl, hwritten⟩
    rw [unpackI420Frame_eq hshows, hdata]
    rfl
  rcases refused_or_shows create sample with ⟨what, hrefused⟩ | ⟨made, planes, hshows⟩
  · refine ⟨by simp [hrefused], ⟨fun ⟨frame, hframe⟩ => ?_, fun ⟨made, planes, hshows, hcopy⟩ => ?_⟩,
      fun frame hframe => ?_⟩
    · rw [hrefused] at hframe
      cases hframe
    · obtain ⟨frame, hframe, -⟩ := hcopied hshows hcopy
      exact ⟨frame, hframe⟩
    · rw [hrefused] at hframe
      cases hframe
  · by_cases hcopy : ∀ plane ∈ planes, Copyable plane.1 plane.2
    · obtain ⟨frame, hframe, hinfos, hwritten⟩ := hcopied hshows hcopy
      refine ⟨by simp [hframe], ⟨fun _ => ⟨made, planes, hshows, hcopy⟩, fun _ => ⟨frame, hframe⟩⟩,
        fun frame' hframe' => ?_⟩
      rw [hframe] at hframe'
      obtain rfl := Except.ok.inj hframe'
      exact ⟨made, planes, hshows, hcopy, hinfos, hwritten⟩
    · obtain ⟨what, hrefused⟩ := copyPlanes_refused (hshows.sound hcreate hcovers) hcopy
      have hthrown : unpackI420Frame create sample = .error (.thrown what) := by
        rw [unpackI420Frame_eq hshows, hrefused]
        rfl
      refine ⟨by simp [hthrown], ⟨fun ⟨frame, hframe⟩ => ?_, fun ⟨made', planes', h, hall⟩ => ?_⟩,
        fun frame hframe => ?_⟩
      · rw [hthrown] at hframe
        cases hframe
      · obtain ⟨frame, hframe, -⟩ := hcopied h hall
        exact ⟨frame, hframe⟩
      · rw [hthrown] at hframe
        cases hframe

/-- A picture of 2 × 2, in rows of 4 bytes. -/
def paddedSample : Sample where
  caps := some (some ⟨kFormatI420, 2, 2⟩)
  hasBuffer := true
  mapping := some fun i => if i = 0 then ⟨some [1, 2, 0, 0, 3, 4], 4, 2, 2⟩ else ⟨some [5], 4, 1, 1⟩

/-- LiveKit's frame of 2 × 2. -/
def smallFrame : VideoFrame where
  data := [0, 0, 0, 0, 0, 0]
  planeInfos := [⟨some 0, 2, 4⟩, ⟨some 4, 1, 1⟩, ⟨some 5, 1, 1⟩]

theorem laidOut_smallFrame : smallFrame.LaidOut := by
  refine ⟨?_, ?_⟩
  · simp [smallFrame]
  · simp [smallFrame, VideoPlaneInfo.Apart]

theorem unpackI420Frame_spec_padded :
    ∃ made planes, Shows (fun _ _ => .ok smallFrame) paddedSample made planes ∧
      (∀ plane ∈ planes, Copyable plane.1 plane.2) ∧ smallFrame.planeInfos = made.planeInfos ∧
        Written planes made.data [1, 2, 3, 4, 5, 5] := by
  have hcreate : LaysOut fun _ _ => .ok smallFrame := by
    intro width height frame hframe
    obtain rfl := Except.ok.inj hframe
    exact laidOut_smallFrame
  have hcovers : ∀ component, paddedSample.mapping = some component → ∀ i, (component i).Covers := by
    intro component hcomponent i src hsrc hstride hheight
    obtain rfl := Option.some.inj hcomponent
    by_cases hi : i = 0
    · simp only [hi, if_true, Option.some.injEq] at hsrc ⊢
      rw [← hsrc]
      decide
    · simp only [hi, if_false, Option.some.injEq] at hsrc ⊢
      rw [← hsrc]
      decide
  exact (unpackI420Frame_spec hcreate hcovers).2.2 { smallFrame with data := [1, 2, 3, 4, 5, 5] } rfl

end Unpack

end Video

end LivekitBridge
