import LivekitBridge.Leases.DataTrack
import LivekitBridge.Names.RosExpansion
import LivekitBridge.Utils.PercentEncode
import Mathlib.Data.List.DropRight

/-!
# The names of the tracks

Four kinds of target share the names of LiveKit tracks: a ROS topic as data
(`lkros.data`) or as video (`lkros.video`), and the configured `other_video`
(`lkros.video.other.`) and `other_audio` (`lkros.audio.other.`) sources.

On a valid absolute name the loop of `makeRosTopicTrackSuffix` has nothing to
collapse: it turns each `/` into a `.`, as `makeTrackName` does, and drops the one in
front, which the prefix then supplies (`rosVideoName_eq`).  So a topic can be read off
its track's name.  A source can be read off its own because percent-encoding is a prefix
code, `percentEncodeUnreserved_injective`.

What is left is the one place where two prefixes overlap, `lkros.video.` and
`lkros.video.other.`: the mapping of the topics is lossy, as the source says, and
`trackName_eq_iff` is what is lost.  The topic `/other/a/b` and the source `a.b` share
their track name, and nothing else does.
-/

namespace LivekitBridge

open Lib

/-- What a track is published for. -/
inductive TrackTarget
  /-- a ROS topic delivered as data -/
  | rosData (topic : Str)
  /-- a ROS topic delivered as video -/
  | rosVideo (topic : Str)
  | otherVideo (name : Str)
  | otherAudio (name : Str)
deriving DecidableEq, Repr

/-- What the names depend on: the configurations, and the type of each topic of the graph. -/
structure TrackConfig where
  video : Video.StreamConfig
  audio : Audio.StreamConfig
  typeOf : Str → Str

/-- The name of the track the bridge publishes for the target, if it resolves. -/
def TrackTarget.trackName (expand : Expand) (config : TrackConfig) : TrackTarget → Except Str Str
  | .rosData topic => .ok (DataTrackPublisher.makeTrackName topic)
  | .rosVideo topic =>
    (Video.resolveRosTopicSpec expand config.video topic (config.typeOf topic)).map (·.trackName)
  | .otherVideo name => (Video.resolveOtherSourceSpec config.video name).map (·.trackName)
  | .otherAudio name => (Audio.resolveOtherSourceSpec config.audio name).map (·.trackName)

/-- Topics are valid absolute names, and sources have trimmed non-empty names. -/
def TrackTarget.Valid : TrackTarget → Prop
  | .rosData topic => ros2ValidFull topic = true
  | .rosVideo topic => ros2ValidFull topic = true
  | .otherVideo name => trim name = name ∧ name ≠ []
  | .otherAudio name => trim name = name ∧ name ≠ []

/-! ### Topics -/

/-- `'/'` becomes `'.'`. -/
def slashToDot (ch : UInt8) : UInt8 := if ch = slash then dot else ch

/-- `'.'` becomes `'/'`. -/
def dotToSlash (ch : UInt8) : UInt8 := if ch = dot then slash else ch

theorem dotToSlash_slashToDot {ch : UInt8} (h : ch ≠ dot) : dotToSlash (slashToDot ch) = ch := by
  unfold dotToSlash slashToDot
  by_cases hs : ch = slash
  · simp [hs]
  · simp [hs, h]

theorem slashToDot_dotToSlash {ch : UInt8} (h : ch ≠ slash) : slashToDot (dotToSlash ch) = ch := by
  unfold dotToSlash slashToDot
  by_cases hd : ch = dot
  · simp [hd]
  · simp [hd, h]

theorem map_dotToSlash_map_slashToDot {text : Str} (h : dot ∉ text) :
    (text.map slashToDot).map dotToSlash = text := by
  rw [List.map_map]
  conv_rhs => rw [← List.map_id text]
  exact List.map_congr_left fun ch hch => dotToSlash_slashToDot fun hd => h (hd ▸ hch)

theorem map_slashToDot_map_dotToSlash {text : Str} (h : slash ∉ text) :
    (text.map dotToSlash).map slashToDot = text := by
  rw [List.map_map]
  conv_rhs => rw [← List.map_id text]
  exact List.map_congr_left fun ch hch => slashToDot_dotToSlash fun hs => h (hs ▸ hch)

theorem dot_not_mem_topic {topic : Str} (h : ros2ValidFull topic = true) : dot ∉ topic := by
  intro hdot
  rcases ros2ValidFull_bytes h dot hdot with heq | hname
  · revert heq
    decide
  · revert hname
    decide

/-- The loop of `makeRosTopicTrackSuffix` on a segment copies it. -/
theorem foldl_appendTrackByte {s : Str} (hs : ∀ c ∈ s, c ≠ slash ∧ c ≠ colon) (suffix : Str) :
    s.foldl appendTrackByte suffix = suffix ++ s := by
  induction s generalizing suffix with
  | nil => rw [List.foldl_nil, List.append_nil]
  | cons c s ih =>
    rw [List.foldl_cons, appendTrackByte, if_pos (hs c List.mem_cons_self),
      ih fun c hc => hs c (List.mem_cons_of_mem _ hc), List.append_assoc, List.singleton_append]

/-- A separator after a segment becomes a dot. -/
theorem appendTrackByte_slash {suffix : Str} (hne : suffix ≠ []) (hlast : suffix.getLast? ≠ some dot) :
    appendTrackByte suffix slash = suffix ++ [dot] := by
  rw [appendTrackByte, if_neg (by decide), if_pos ⟨hne, hlast⟩]

theorem foldl_appendTrackByte_render {segs : List Str}
    (hsegs : ∀ s ∈ segs, s ≠ [] ∧ ∀ c ∈ s, c ≠ slash ∧ c ≠ colon ∧ c ≠ dot) {suffix : Str}
    (hne : suffix ≠ []) (hlast : suffix.getLast? ≠ some dot) :
    (render slash segs).foldl appendTrackByte suffix = suffix ++ render dot segs := by
  induction segs generalizing suffix with
  | nil => rw [render_nil, render_nil, List.foldl_nil, List.append_nil]
  | cons s segs ih =>
    obtain ⟨hs, hbytes⟩ := hsegs s List.mem_cons_self
    have hlast' : (suffix ++ [dot] ++ s).getLast? ≠ some dot := by
      rw [List.getLast?_append_of_ne_nil _ hs]
      intro hdot
      exact (hbytes dot (List.mem_of_getLast? hdot)).2.2 rfl
    rw [render_cons, render_cons, List.foldl_cons, appendTrackByte_slash hne hlast,
      List.foldl_append, foldl_appendTrackByte (fun c hc => ⟨(hbytes c hc).1, (hbytes c hc).2.1⟩),
      ih (fun s hs => hsegs s (List.mem_cons_of_mem _ hs)) (by simp) hlast']
    simp

theorem getLast?_append_render {segs : List Str} (hsegs : ∀ s ∈ segs, s ≠ [] ∧ dot ∉ s) {suffix : Str}
    (hlast : suffix.getLast? ≠ some dot) : (suffix ++ render dot segs).getLast? ≠ some dot := by
  induction segs generalizing suffix with
  | nil => rwa [render_nil, List.append_nil]
  | cons s segs ih =>
    obtain ⟨hs, hdot⟩ := hsegs s List.mem_cons_self
    have hlast' : (suffix ++ dot :: s).getLast? ≠ some dot := by
      rw [show suffix ++ dot :: s = suffix ++ [dot] ++ s by simp, List.getLast?_append_of_ne_nil _ hs]
      exact fun h => hdot (List.mem_of_getLast? h)
    rw [render_cons, ← List.cons_append, ← List.append_assoc]
    exact ih (fun s hs => hsegs s (List.mem_cons_of_mem _ hs)) hlast'

theorem map_slashToDot_render {segs : List Str} (hsegs : ∀ s ∈ segs, slash ∉ s) :
    (render slash segs).map slashToDot = render dot segs := by
  induction segs with
  | nil => rfl
  | cons s segs ih =>
    have hs : s.map slashToDot = s := by
      conv_rhs => rw [← List.map_id s]
      refine List.map_congr_left fun ch hch => if_neg ?_
      rintro rfl
      exact hsegs s List.mem_cons_self hch
    rw [render_cons, render_cons, List.map_cons, List.map_append, hs,
      ih fun s hs => hsegs s (List.mem_cons_of_mem _ hs)]
    rfl

/-- On non-empty segments of plain bytes the suffix is the segments, joined by dots. -/
theorem makeRosTopicTrackSuffix_render {s : Str} {segs : List Str}
    (hsegs : ∀ t ∈ s :: segs, t ≠ [] ∧ ∀ c ∈ t, c ≠ slash ∧ c ≠ colon ∧ c ≠ dot) :
    makeRosTopicTrackSuffix (render slash (s :: segs)) = s ++ render dot segs := by
  obtain ⟨hs, hcs⟩ := hsegs s List.mem_cons_self
  have hdot : dot ∉ s := fun hd => (hcs dot hd).2.2 rfl
  have hfold : (render slash (s :: segs)).foldl appendTrackByte [] = s ++ render dot segs := by
    rw [render_cons, List.foldl_cons, List.foldl_append,
      show appendTrackByte [] slash = [] by decide,
      foldl_appendTrackByte fun c hc => ⟨(hcs c hc).1, (hcs c hc).2.1⟩, List.nil_append]
    exact foldl_appendTrackByte_render (fun s hs => hsegs s (List.mem_cons_of_mem _ hs)) hs
      fun hd => hdot (List.mem_of_getLast? hd)
  have hdrop : (s ++ render dot segs).dropWhile (· == dot) = s ++ render dot segs := by
    cases s with
    | nil => exact absurd rfl hs
    | cons c s =>
      have hc : (c == dot) = false := beq_false_of_ne (hcs c List.mem_cons_self).2.2
      rw [List.cons_append, List.dropWhile_cons, hc]
      rfl
  have hlast : (s ++ render dot segs).getLast? ≠ some dot := by
    refine getLast?_append_render (fun t ht => ?_) fun hd => hdot (List.mem_of_getLast? hd)
    obtain ⟨hne, hcs⟩ := hsegs t (List.mem_cons_of_mem _ ht)
    exact ⟨hne, fun hd => (hcs dot hd).2.2 rfl⟩
  rw [makeRosTopicTrackSuffix, hfold, hdrop, List.rdropWhile_eq_self_iff]
  intro hne heq
  rw [beq_iff_eq] at heq
  exact hlast ((List.getLast?_eq_some_getLast hne).trans (congrArg some heq))

/-- **The suffix loses nothing of a valid name** but the separator in front. -/
theorem dot_cons_makeRosTopicTrackSuffix {topic : Str} (h : ros2ValidFull topic = true) :
    dot :: makeRosTopicTrackSuffix topic = topic.map slashToDot := by
  obtain ⟨hhead, hsegs⟩ := ros2ValidFull_segments h
  have hbytes : ∀ s ∈ segments slash topic,
      s ≠ [] ∧ ∀ c ∈ s, c ≠ slash ∧ c ≠ colon ∧ c ≠ dot := by
    intro s hs
    refine ⟨(hsegs s hs).1, fun c hc => ?_⟩
    have hname := (hsegs s hs).2.1 c hc
    exact ⟨isNameByte_ne hname (by decide), isNameByte_ne hname (by decide),
      isNameByte_ne hname (by decide)⟩
  have htopic := render_segments hhead
  rw [← htopic, map_slashToDot_render fun s hs hc => ((hbytes s hs).2 slash hc).1 rfl]
  cases hseg : segments slash topic with
  | nil =>
    rw [← htopic, hseg] at hhead
    cases hhead
  | cons s segs =>
    rw [makeRosTopicTrackSuffix_render (hseg ▸ hbytes), render_cons]

/-! ### The four mappings together -/

/-- The name a valid target's track has. -/
def TrackTarget.nominal : TrackTarget → Str
  | .rosData topic => lit "lkros.data" ++ topic.map slashToDot
  | .rosVideo topic => lit "lkros.video" ++ topic.map slashToDot
  | .otherVideo name => lit "lkros.video.other." ++ percentEncodeUnreserved name
  | .otherAudio name => lit "lkros.audio.other." ++ percentEncodeUnreserved name

/-- A configured source is found under its own name. -/
theorem findOtherSource_name {sources : AList fun _ : Str => OtherSource} {what name : Str}
    {input : OtherInput} (htrim : trim name = name)
    (h : findOtherSource sources what name = .ok input) : input.name = name := by
  unfold findOtherSource at h
  simp only [htrim] at h
  split at h
  · cases h
  · split at h
    · cases h
    · obtain rfl := Except.ok.inj h
      rfl

/-- A valid absolute name is its own normal form, so the spec is made for the name itself. -/
theorem rosVideoName_eq {expand : Expand} (hexpand : KeepsFull ros2Grammar expand)
    {config : Video.StreamConfig} {topic type : Str} {spec : Video.StreamSpec}
    (hvalid : ros2ValidFull topic = true)
    (h : Video.resolveRosTopicSpec expand config topic type = .ok spec) :
    spec.trackName = (TrackTarget.rosVideo topic).nominal := by
  have hfull : ros2Grammar.validFull false topic = true := hvalid
  have hok := hexpand topic Video.kResourceNodeName (lit "/") false hfull
  have hne := (ros2Grammar.full_absolute hfull).ne_nil
  have htrim := trim_full hfull
  have hnormal : normalizeRosResourceName expand topic Video.kResourceNodeName (lit "/") false
      = topic := by
    rw [normalizeRosResourceName_eq_iff hne, ExpandsTo, htrim]
    exact ⟨hne, hok⟩
  unfold Video.resolveRosTopicSpec at h
  simp only [hnormal] at h
  split at h
  · cases h
  · split at h
    · cases h
    · split at h
      · cases h
      · obtain rfl := Except.ok.inj h
        show lit "lkros.video." ++ makeRosTopicTrackSuffix topic = lit "lkros.video" ++ topic.map slashToDot
        rw [← dot_cons_makeRosTopicTrackSuffix hvalid]
        rfl

theorem trackName_eq_nominal {expand : Expand} (hexpand : KeepsFull ros2Grammar expand)
    {config : TrackConfig} {target : TrackTarget} {name : Str} (hvalid : target.Valid)
    (h : target.trackName expand config = .ok name) : name = target.nominal := by
  cases target with
  | rosData topic =>
    obtain rfl := Except.ok.inj h
    rfl
  | rosVideo topic =>
    simp only [TrackTarget.trackName] at h
    cases hspec : Video.resolveRosTopicSpec expand config.video topic (config.typeOf topic) with
    | error what =>
      rw [hspec] at h
      cases h
    | ok spec =>
      rw [hspec] at h
      obtain rfl := Except.ok.inj h
      exact rosVideoName_eq hexpand hvalid hspec
  | otherVideo source =>
    simp only [TrackTarget.trackName, Video.resolveOtherSourceSpec] at h
    cases hfind : findOtherSource config.video.otherSources (lit "video") source with
    | error what =>
      rw [hfind] at h
      cases h
    | ok input =>
      rw [hfind] at h
      obtain rfl := Except.ok.inj h
      rw [← findOtherSource_name hvalid.1 hfind]
      rfl
  | otherAudio source =>
    simp only [TrackTarget.trackName, Audio.resolveOtherSourceSpec] at h
    cases hfind : findOtherSource config.audio.otherSources (lit "audio") source with
    | error what =>
      rw [hfind] at h
      cases h
    | ok input =>
      rw [hfind] at h
      obtain rfl := Except.ok.inj h
      rw [← findOtherSource_name hvalid.1 hfind]
      rfl

/-- A topic under `/other` and the `other_video` source spelled like its rest. -/
def SharesTrackName (a b : TrackTarget) : Prop :=
  ∃ rest, a = .rosVideo (lit "/other/" ++ rest) ∧ b = .otherVideo (rest.map slashToDot)

/-- A topic can be read off its name. -/
theorem topic_eq_of_map_eq {t u : Str} (ht : ros2ValidFull t = true) (hu : ros2ValidFull u = true)
    (h : t.map slashToDot = u.map slashToDot) : t = u := by
  rw [← map_dotToSlash_map_slashToDot (dot_not_mem_topic ht), h,
    map_dotToSlash_map_slashToDot (dot_not_mem_topic hu)]

/-- The bytes of a topic's track name, behind the prefix. -/
theorem mem_map_slashToDot {topic : Str} (h : ros2ValidFull topic = true) {c : UInt8}
    (hc : c ∈ topic.map slashToDot) : c = dot ∨ isNameByte c = true := by
  obtain ⟨ch, hch, rfl⟩ := List.mem_map.mp hc
  unfold slashToDot
  split
  · exact .inl rfl
  · rename_i hslash
    exact .inr ((ros2ValidFull_bytes h ch hch).resolve_left hslash)

theorem isUnreservedByte_of_isNameByte {c : UInt8} (h : isNameByte c = true) :
    isUnreservedByte c = true := by
  simp only [isNameByte, isDigit, isUnreservedByte, Bool.or_eq_true] at h ⊢
  tauto

/-- **Where the two video prefixes overlap.** -/
theorem rosVideo_nominal_eq_iff {topic name : Str} (h : ros2ValidFull topic = true) :
    (TrackTarget.rosVideo topic).nominal = (TrackTarget.otherVideo name).nominal ↔
      SharesTrackName (.rosVideo topic) (.otherVideo name) := by
  have hsplit : (TrackTarget.otherVideo name).nominal =
      lit "lkros.video" ++ (lit ".other." ++ percentEncodeUnreserved name) := rfl
  have hdots : (lit "/other/").map slashToDot = lit ".other." := by decide
  have hslashes : (lit ".other.").map dotToSlash = lit "/other/" := by decide
  rw [hsplit, TrackTarget.nominal, List.append_cancel_left_eq]
  constructor
  · intro heq
    -- the name has no `%`, so the encoding is the name itself
    have hmem : ∀ c ∈ percentEncodeUnreserved name, c = dot ∨ isNameByte c = true := by
      intro c hc
      refine mem_map_slashToDot h ?_
      rw [heq]
      exact List.mem_append_right _ hc
    have hpercent : (0x25 : UInt8) ∉ percentEncodeUnreserved name := by
      intro hp
      rcases hmem _ hp with hdot | hname
      · revert hdot
        decide
      · revert hname
        decide
    have hunreserved := unreserved_of_percent_not_mem hpercent
    rw [percentEncodeUnreserved_of_unreserved hunreserved] at heq
    have hslash : slash ∉ name := fun hs => by
      have := hunreserved slash hs
      revert this
      decide
    refine ⟨name.map dotToSlash, ?_, ?_⟩
    · rw [← map_dotToSlash_map_slashToDot (dot_not_mem_topic h), heq, List.map_append, hslashes]
    · rw [map_slashToDot_map_dotToSlash hslash]
  · rintro ⟨rest, ht, hn⟩
    obtain rfl := TrackTarget.rosVideo.inj ht
    obtain rfl := TrackTarget.otherVideo.inj hn
    rw [percentEncodeUnreserved_of_unreserved, List.map_append, hdots]
    intro c hc
    have hc : c ∈ (lit "/other/" ++ rest).map slashToDot := by
      rw [List.map_append]
      exact List.mem_append_right _ hc
    rcases mem_map_slashToDot h hc with rfl | hname
    · decide
    · exact isUnreservedByte_of_isNameByte hname

/-- The byte behind `lkros.`, which tells data, video and audio apart. -/
def TrackTarget.mark : TrackTarget → UInt8
  | .rosData _ => 0x64
  | .rosVideo _ => 0x76
  | .otherVideo _ => 0x76
  | .otherAudio _ => 0x61

theorem head?_drop_nominal (target : TrackTarget) :
    (target.nominal.drop 6).head? = some target.mark := by
  cases target <;> rfl

theorem mark_eq_of_nominal_eq {a b : TrackTarget} (h : a.nominal = b.nominal) : a.mark = b.mark := by
  have hhead := head?_drop_nominal a
  rw [h, head?_drop_nominal b] at hhead
  exact (Option.some.inj hhead).symm

theorem eq_of_nominal_eq {a b : TrackTarget} (ha : a.Valid) (hb : b.Valid)
    (h : a.nominal = b.nominal) :
    a = b ∨ (∃ topic name, a = .rosVideo topic ∧ b = .otherVideo name) ∨
      ∃ topic name, b = .rosVideo topic ∧ a = .otherVideo name := by
  have hmark := mark_eq_of_nominal_eq h
  cases a with
  | rosData t =>
    cases b with
    | rosData u =>
      left
      rw [topic_eq_of_map_eq ha hb (List.append_cancel_left h)]
    | rosVideo u => cases hmark
    | otherVideo n => cases hmark
    | otherAudio n => cases hmark
  | rosVideo t =>
    cases b with
    | rosData u => cases hmark
    | rosVideo u =>
      left
      rw [topic_eq_of_map_eq ha hb (List.append_cancel_left h)]
    | otherVideo n => exact .inr (.inl ⟨t, n, rfl, rfl⟩)
    | otherAudio n => cases hmark
  | otherVideo m =>
    cases b with
    | rosData u => cases hmark
    | rosVideo u => exact .inr (.inr ⟨u, m, rfl, rfl⟩)
    | otherVideo n =>
      left
      rw [percentEncodeUnreserved_injective (List.append_cancel_left h)]
    | otherAudio n => cases hmark
  | otherAudio m =>
    cases b with
    | rosData u => cases hmark
    | rosVideo u => cases hmark
    | otherVideo n => cases hmark
    | otherAudio n =>
      left
      rw [percentEncodeUnreserved_injective (List.append_cancel_left h)]

theorem nominal_eq_of_shares {a b : TrackTarget} (ha : a.Valid) (h : SharesTrackName a b) :
    a.nominal = b.nominal := by
  obtain ⟨rest, rfl, rfl⟩ := h
  exact (rosVideo_nominal_eq_iff ha).mpr ⟨rest, rfl, rfl⟩

/-- **Track names identify targets**, but for a topic `/other/X` delivered as video and
the `other_video` source that is named like `X` with dots. -/
theorem trackName_eq_iff {expand : Expand} (hexpand : KeepsFull ros2Grammar expand)
    (config : TrackConfig) {a b : TrackTarget} (ha : a.Valid) (hb : b.Valid) (hne : a ≠ b)
    {nameA nameB : Str} (hnameA : a.trackName expand config = .ok nameA)
    (hnameB : b.trackName expand config = .ok nameB) :
    nameA = nameB ↔ SharesTrackName a b ∨ SharesTrackName b a := by
  rw [trackName_eq_nominal hexpand ha hnameA, trackName_eq_nominal hexpand hb hnameB]
  constructor
  · intro heq
    rcases eq_of_nominal_eq ha hb heq with hab | ⟨topic, name, rfl, rfl⟩ | ⟨topic, name, rfl, rfl⟩
    · exact absurd hab hne
    · exact .inl ((rosVideo_nominal_eq_iff ha).mp heq)
    · exact .inr ((rosVideo_nominal_eq_iff hb).mp heq.symm)
  · rintro (hshares | hshares)
    · exact nominal_eq_of_shares ha hshares
    · exact (nominal_eq_of_shares hb hshares).symm

/-- The default video rules and one source of each kind, with every topic an image. -/
def oneCamera : TrackConfig :=
  ⟨⟨Video.makeDefaultConfig.rosTopicRules, AList.insert (lit "front") ⟨[], []⟩ ∅⟩,
    ⟨AList.insert (lit "front") ⟨[], []⟩ ∅⟩, fun _ => lit "sensor_msgs/msg/Image"⟩

/-- The topic `/front` and the source `front` have different names. -/
theorem trackName_eq_iff_front :
    (TrackTarget.rosVideo (lit "/front")).trackName ros2Expand oneCamera =
        .ok (lit "lkros.video.front") ∧
      (TrackTarget.otherVideo (lit "front")).trackName ros2Expand oneCamera =
        .ok (lit "lkros.video.other.front") ∧
      lit "lkros.video.front" ≠ lit "lkros.video.other.front" := by
  have hvalid : (TrackTarget.rosVideo (lit "/front")).Valid := show ros2ValidFull _ = true by decide
  refine ⟨by decide, by decide, fun heq => ?_⟩
  have h := (trackName_eq_iff implements_ros2Expand.keepsFull oneCamera (a := .rosVideo (lit "/front"))
    (b := .otherVideo (lit "front")) hvalid ⟨by decide, by decide⟩ (by decide) (by decide)
    (by decide)).mp heq
  rcases h with ⟨rest, htopic, _⟩ | ⟨rest, htopic, _⟩
  · have hbyte : some (0x66 : UInt8) = some 0x6F :=
      congrArg (fun topic : Str => topic.tail.head?) (TrackTarget.rosVideo.inj htopic)
    revert hbyte
    decide
  · cases htopic

/-- **Two targets share a track name**: the topic `/other/front` and the source
`front`. -/
theorem not_trackNames_differ :
    ¬ ∀ expand, Implements ros2Grammar expand → ∀ (config : TrackConfig) (a b : TrackTarget),
      a.Valid → b.Valid → a ≠ b → ∀ nameA nameB, a.trackName expand config = .ok nameA →
        b.trackName expand config = .ok nameB → nameA ≠ nameB := by
  intro h
  have hvalid : (TrackTarget.rosVideo (lit "/other/front")).Valid :=
    show ros2ValidFull _ = true by decide
  exact h ros2Expand implements_ros2Expand oneCamera (.rosVideo (lit "/other/front"))
    (.otherVideo (lit "front")) hvalid ⟨by decide, by decide⟩ (by decide)
    (lit "lkros.video.other.front") (lit "lkros.video.other.front") (by decide) (by decide) rfl

end LivekitBridge
