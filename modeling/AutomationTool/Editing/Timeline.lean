import AutomationTool.Protocol.Envelope

/-!
# The local editing timeline

What plays when, taken from where, at what level. A value of `TimelineClip`,
`TimelineTrack` or `Timeline` passed the checks of the source's constructor of the
same name, which are its last field; `Timeline.make` is that constructor.

Lengths and positions are milliseconds. A level is the number its `float` denotes
(a NaN or an infinity passes no check). The Unicode character database that
`str.strip` and `unicodedata.category` consult is a parameter, `UnicodeData`.

* `Timeline.materials_ne_nil`: every timeline names a material, so the assertion of
  the repository's `save` cannot fail.
-/
namespace AutomationTool.Editing

open Protocol

abbrev EditingProjectId := Nat
abbrev MaterialId := Nat
abbrev TimelineId := Nat

/-- `uuid.UUID`, as its 128 bits. -/
abbrev Uuid := Nat

/-- `UUID.version`: none unless the variant is the one of RFC 4122. -/
def Uuid.version (u : Uuid) : Option Nat :=
  if u < 2 ^ 128 ∧ u / 2 ^ 62 % 4 = 2 then some (u / 2 ^ 76 % 16) else none

/-- `MaterialId.parse` of a UUID.
mirrors resource_ids.py:22-53 -/
def MaterialId.parse (u : Uuid) : Option MaterialId :=
  if Uuid.version u = some 4 then some u else none

/-- mirrors timeline.py:18-24 -/
def maxTimelineDurationMs : Nat := 600000
def minTimelineDurationMs : Nat := 100
def maxClipsPerTrack : Nat := 512
def maxTransitionDurationMs : Nat := 10000
def maxClipTextCharacters : Nat := 2000
def minGainDb : ℚ := -60
def maxGainDb : ℚ := 12

/-- mirrors domain/material.py:14 -/
def maxMaterialDurationMs : Nat := 4 * 60 * 60 * 1000

/-- `str.isspace` and "the category starts with C" of one character. -/
class UnicodeData where
  isSpace : Char → Bool
  isOther : Char → Bool

/-- `_LOCAL_ID_PATTERN`. -/
def localIdPattern : List Char → Bool
  | [] => false
  | c :: cs =>
    ('a' ≤ c ∧ c ≤ 'z') ∧ cs.length ≤ 63 ∧
      cs.all fun c => ('a' ≤ c ∧ c ≤ 'z') ∨ ('0' ≤ c ∧ c ≤ '9') ∨ c = '-'

/-- `_validate_text`.
mirrors timeline.py:88-97 -/
def validateText [UnicodeData] (maximum : Nat) (value : List Char) : Bool :=
  value ≠ [] ∧ (value.head?.any UnicodeData.isSpace = false) ∧
    (value.getLast?.any UnicodeData.isSpace = false) ∧ value.length ≤ maximum ∧
    value.all fun c => c = '\n' ∨ c = '\t' ∨ UnicodeData.isOther c = false

/-- mirrors timeline.py:42-54 -/
inductive TimelineTrackKind where
  | visual | narration | ambient | music | caption
  deriving DecidableEq, Repr

/-- mirrors timeline.py:57-62 -/
inductive OriginalAudioMode where
  | autoDuck | fixedVolume | muted
  deriving DecidableEq, Repr

/-- mirrors timeline.py:70-80 -/
inductive TransitionKind where
  | fade | dissolve | wipe
  deriving DecidableEq, Repr

/-- mirrors timeline.py:109-120 -/
@[ext] structure TimelineTransition where
  kind : TransitionKind
  durationMs : Nat
  durationMs_pos : 1 ≤ durationMs := by decide
  durationMs_le : durationMs ≤ maxTransitionDurationMs := by decide

instance : DecidableEq TimelineTransition := fun _ _ => decidable_of_iff' _ TimelineTransition.ext_iff

/-! ## Clips -/

structure ClipFields where
  clipId : List Char
  startMs : Nat
  durationMs : Nat
  sourceMaterialId : Option MaterialId
  sourceInMs : Option Nat
  sourceOutMs : Option Nat
  text : Option (List Char)
  gainDb : Option ℚ
  transitionIn : Option TimelineTransition
  originalAudioMode : Option OriginalAudioMode
  deriving DecidableEq

namespace ClipFields

def endMs (c : ClipFields) : Nat := c.startMs + c.durationMs

/-- `_validate_source_window`: both ends or neither, of a material, as long as the clip. -/
def validateSourceWindow (c : ClipFields) : Bool :=
  match c.sourceInMs, c.sourceOutMs with
  | none, none => true
  | some sourceIn, some sourceOut =>
    c.sourceMaterialId.isSome ∧ sourceOut ≤ maxMaterialDurationMs ∧
      sourceOut = sourceIn + c.durationMs
  | _, _ => false

/-- `_validate_gain`. -/
def validateGain (c : ClipFields) : Bool :=
  match c.gainDb with
  | none => true
  | some gain => c.sourceInMs.isSome ∧ minGainDb ≤ gain ∧ gain ≤ maxGainDb

/-- `_validate_transition`. -/
def validateTransition (c : ClipFields) : Bool :=
  match c.transitionIn with
  | none => true
  | some transition => transition.durationMs < c.durationMs

/-- `TimelineClip.__post_init__`.
mirrors timeline.py:138-206 -/
structure Valid [UnicodeData] (c : ClipFields) : Prop where
  clipId : localIdPattern c.clipId = true
  duration_pos : 1 ≤ c.durationMs
  end_le : c.endMs ≤ maxTimelineDurationMs
  text : c.text.all (validateText maxClipTextCharacters) = true
  /-- A clip plays a material or shows a text, never both. -/
  content : c.sourceMaterialId.isNone ≠ c.text.isNone
  source : c.validateSourceWindow = true
  gain : c.validateGain = true
  transition : c.validateTransition = true

end ClipFields

structure TimelineClip [UnicodeData] extends ClipFields where
  valid : toClipFields.Valid

instance [UnicodeData] (c : ClipFields) : Decidable c.Valid :=
  decidable_of_iff
    (localIdPattern c.clipId = true ∧ 1 ≤ c.durationMs ∧ c.endMs ≤ maxTimelineDurationMs ∧
      c.text.all (validateText maxClipTextCharacters) = true ∧
      c.sourceMaterialId.isNone ≠ c.text.isNone ∧ c.validateSourceWindow = true ∧
      c.validateGain = true ∧ c.validateTransition = true)
    ⟨fun ⟨a, b, c, d, e, f, g, h⟩ => ⟨a, b, c, d, e, f, g, h⟩,
      fun ⟨a, b, c, d, e, f, g, h⟩ => ⟨a, b, c, d, e, f, g, h⟩⟩

/-- `TimelineClip(...)`: `none` is `InvalidTimelineModel`. -/
def TimelineClip.make [UnicodeData] (c : ClipFields) : Option TimelineClip :=
  if h : c.Valid then some ⟨c, h⟩ else none

theorem TimelineClip.make_eq_some [UnicodeData] {c : ClipFields} {clip : TimelineClip} :
    make c = some clip ↔ clip.toClipFields = c := by
  unfold make
  constructor
  · intro h
    split at h <;> cases h
    rfl
  · rintro rfl
    exact dif_pos clip.valid

/-! ## Tracks -/

structure TrackFields [UnicodeData] where
  trackId : List Char
  kind : TimelineTrackKind
  clips : List TimelineClip

section

variable [UnicodeData]

/-- `_validate_clip_shape`: what a clip on this lane may carry.
mirrors timeline.py:239-275 -/
def TimelineTrackKind.validateClipShape (kind : TimelineTrackKind) (clip : TimelineClip) : Bool :=
  match kind with
  | .caption =>
    clip.sourceMaterialId = none ∧ clip.transitionIn = none ∧ clip.originalAudioMode = none
  | .visual => clip.text = none ∧ clip.gainDb = none ∧ clip.originalAudioMode = none
  | .ambient =>
    clip.text = none ∧ clip.gainDb ≠ none ∧ clip.transitionIn = none ∧
      clip.originalAudioMode ≠ none
  | .narration | .music =>
    clip.text = none ∧ clip.gainDb ≠ none ∧ clip.transitionIn = none ∧
      clip.originalAudioMode = none

/-- How far a clip starts before the end of the one it follows. -/
def TimelineClip.overlap (clip : TimelineClip) : Nat :=
  match clip.transitionIn with
  | none => 0
  | some transition => transition.durationMs

/-- The picture lane of `_validate_layout`: end to end from zero, and a transition
eats less than what is left of the outgoing clip.
mirrors timeline.py:286-312 -/
def visualLayout (previousEnd previousTail : Nat) : List TimelineClip → Bool
  | [] => true
  | clip :: clips =>
    (clip.transitionIn = none ∨ clip.overlap < previousTail) ∧
      clip.startMs + clip.overlap = previousEnd ∧
      visualLayout clip.endMs (clip.durationMs - clip.overlap) clips

/-- Every other lane: in order and disjoint. -/
def orderedLayout (previousEnd : Nat) : List TimelineClip → Bool
  | [] => true
  | clip :: clips => previousEnd ≤ clip.startMs ∧ orderedLayout clip.endMs clips

/-- `_validate_layout`. -/
def TimelineTrackKind.validateLayout (kind : TimelineTrackKind) (clips : List TimelineClip) :
    Bool :=
  if kind = .visual then visualLayout 0 0 clips else orderedLayout 0 clips

/-- `TimelineTrack.__post_init__`.
mirrors timeline.py:223-237 -/
structure TrackFields.Valid (t : TrackFields) : Prop where
  trackId : localIdPattern t.trackId = true
  nonempty : 1 ≤ t.clips.length
  length_le : t.clips.length ≤ maxClipsPerTrack
  clipIds : (t.clips.map (·.clipId)).Nodup
  shape : ∀ clip ∈ t.clips, t.kind.validateClipShape clip = true
  layout : t.kind.validateLayout t.clips = true

structure TimelineTrack extends TrackFields where
  valid : toTrackFields.Valid

instance (t : TrackFields) : Decidable t.Valid :=
  decidable_of_iff
    (localIdPattern t.trackId = true ∧ 1 ≤ t.clips.length ∧ t.clips.length ≤ maxClipsPerTrack ∧
      (t.clips.map (·.clipId)).Nodup ∧ (∀ clip ∈ t.clips, t.kind.validateClipShape clip = true) ∧
      t.kind.validateLayout t.clips = true)
    ⟨fun ⟨a, b, c, d, e, f⟩ => ⟨a, b, c, d, e, f⟩, fun ⟨a, b, c, d, e, f⟩ => ⟨a, b, c, d, e, f⟩⟩

/-- `TimelineTrack(...)`: `none` is `InvalidTimelineModel`. -/
def TimelineTrack.make (t : TrackFields) : Option TimelineTrack :=
  if h : t.Valid then some ⟨t, h⟩ else none

theorem TimelineTrack.make_eq_some {t : TrackFields} {track : TimelineTrack} :
    make t = some track ↔ track.toTrackFields = t := by
  unfold make
  constructor
  · intro h
    split at h <;> cases h
    rfl
  · rintro rfl
    exact dif_pos track.valid

def TimelineTrack.endMs (t : TimelineTrack) : Nat :=
  match t.clips.getLast? with
  | none => 0
  | some clip => clip.endMs

/-! ## The timeline -/

structure TimelineFields where
  timelineId : TimelineId
  projectId : EditingProjectId
  revision : Nat
  durationMs : Nat
  tracks : List TimelineTrack
  createdAt : Time

/-- `track_of`. -/
def TimelineFields.trackOf (t : TimelineFields) (kind : TimelineTrackKind) :
    Option TimelineTrack :=
  t.tracks.find? fun track => track.kind = kind

/-- The clips on a lane, none where there is no such lane. -/
def TimelineFields.clipsOf (t : TimelineFields) (kind : TimelineTrackKind) : List TimelineClip :=
  (t.trackOf kind).elim [] (·.clips)

/-- `Timeline.__post_init__`; there are five lanes.
mirrors timeline.py:333-353 -/
structure TimelineFields.Valid (t : TimelineFields) : Prop where
  revision_pos : 1 ≤ t.revision
  duration_ge : minTimelineDurationMs ≤ t.durationMs
  duration_le : t.durationMs ≤ maxTimelineDurationMs
  nonempty : 1 ≤ t.tracks.length
  length_le : t.tracks.length ≤ 5
  trackIds : (t.tracks.map (·.trackId)).Nodup
  kinds : (t.tracks.map (·.kind)).Nodup
  picture : (t.trackOf .visual).map (·.endMs) = some t.durationMs
  inside : ∀ track ∈ t.tracks, ∀ clip ∈ track.clips, clip.endMs ≤ t.durationMs

/-- Whether a timeline is valid depends on its cut alone. -/
theorem TimelineFields.Valid.of_cut {f g : TimelineFields} (h : f.Valid)
    (hd : f.durationMs = g.durationMs) (ht : f.tracks = g.tracks) (hr : 1 ≤ g.revision) :
    g.Valid := by
  obtain ⟨id, project, revision, duration, tracks, created⟩ := g
  subst hd ht
  exact ⟨hr, h.duration_ge, h.duration_le, h.nonempty, h.length_le, h.trackIds, h.kinds,
    h.picture, h.inside⟩

structure Timeline extends TimelineFields where
  valid : toTimelineFields.Valid

instance (t : TimelineFields) : Decidable t.Valid :=
  decidable_of_iff
    (1 ≤ t.revision ∧ minTimelineDurationMs ≤ t.durationMs ∧
      t.durationMs ≤ maxTimelineDurationMs ∧ 1 ≤ t.tracks.length ∧ t.tracks.length ≤ 5 ∧
      (t.tracks.map (·.trackId)).Nodup ∧ (t.tracks.map (·.kind)).Nodup ∧
      (t.trackOf .visual).map (·.endMs) = some t.durationMs ∧
      ∀ track ∈ t.tracks, ∀ clip ∈ track.clips, clip.endMs ≤ t.durationMs)
    ⟨fun ⟨a, b, c, d, e, f, g, h, i⟩ => ⟨a, b, c, d, e, f, g, h, i⟩,
      fun ⟨a, b, c, d, e, f, g, h, i⟩ => ⟨a, b, c, d, e, f, g, h, i⟩⟩

/-- `Timeline(...)`: `none` is `InvalidTimelineModel`. -/
def Timeline.make (t : TimelineFields) : Option Timeline :=
  if h : t.Valid then some ⟨t, h⟩ else none

theorem Timeline.make_valid {f : TimelineFields} (h : f.Valid) : Timeline.make f = some ⟨f, h⟩ :=
  dif_pos h

theorem Timeline.make_eq_some {f : TimelineFields} {t : Timeline} (h : Timeline.make f = some t) :
    t.toTimelineFields = f := by
  unfold Timeline.make at h
  split at h
  · cases h; rfl
  · cases h

theorem Timeline.make_eq_none {f : TimelineFields} (h : Timeline.make f = none) : ¬f.Valid := by
  unfold Timeline.make at h
  split at h
  · cases h
  · assumption

/-- The set comprehension of `_material_reference_values`: the materials the clips
of a timeline play, each once. No reader sees in which order their rows are written.
mirrors timeline_repository.py:299-316 -/
def Timeline.materials (t : Timeline) : List MaterialId :=
  (t.tracks.flatMap fun track => track.clips.filterMap (·.sourceMaterialId)).dedup

theorem Timeline.materials_nodup (t : Timeline) : t.materials.Nodup := List.nodup_dedup _

/-- A picture clip plays a material. -/
theorem sourceMaterialId_of_visual {track : TimelineTrack} (hk : track.kind = .visual)
    {clip : TimelineClip} (hc : clip ∈ track.clips) : clip.sourceMaterialId ≠ none := by
  intro hnone
  have hshape := track.valid.shape clip hc
  rw [hk] at hshape
  simp only [TimelineTrackKind.validateClipShape, Bool.decide_and, Bool.and_eq_true,
    decide_eq_true_eq] at hshape
  exact clip.valid.content (by rw [hnone, hshape.1]; simp)

theorem Timeline.materials_ne_nil (t : Timeline) : t.materials ≠ [] := by
  obtain ⟨track, hfind, -⟩ := Option.map_eq_some_iff.1 t.valid.picture
  have hkind : track.kind = .visual := by simpa using List.find?_some hfind
  have htrack : track ∈ t.tracks := List.mem_of_find?_eq_some hfind
  obtain ⟨clip, hclip⟩ := List.exists_mem_of_length_pos track.valid.nonempty
  obtain ⟨m, hm⟩ := Option.ne_none_iff_exists'.1 (sourceMaterialId_of_visual hkind hclip)
  have hmem : m ∈ t.materials := by
    refine List.mem_dedup.2 (List.mem_flatMap.2 ⟨track, htrack, ?_⟩)
    exact List.mem_filterMap.2 ⟨clip, hclip, hm⟩
  exact List.ne_nil_of_mem hmem

end
end AutomationTool.Editing
