import AutomationTool.Editing.Timeline

/-!
# The render plans

What the Control Plane asks an executor to render, without a path in it: a picture plan, a
sound plan and a caption plan. The limits are written here a second time, apart from those
of the timeline. A value passed the checks of the source's constructor of its name, which
are its last field; `make` is that constructor, and `none` its rejection. Since a value is
valid, building it again from its fields (`_validated_clip`, `_validated_plan`) gives it back.
-/
namespace AutomationTool.LocalEditing

open Editing (Uuid Uuid.version UnicodeData validateText localIdPattern)

/-- mirrors local_rendering.py:17-36 -/
def minOutputDimension : Nat := 128
def maxOutputDimension : Nat := 4096
def minOutputFps : Nat := 12
def maxOutputFps : Nat := 60
def minRenderDurationMs : Nat := 100
def maxRenderDurationMs : Nat := 600000
def maxRenderClips : Nat := 512
def maxTransitionDurationMs : Nat := 10000
def maxSourceDurationMs : Nat := 4 * 60 * 60 * 1000
def maxCaptionCues : Nat := 512
def maxCaptionTextCharacters : Nat := 2000
def minCaptionFontPx : Nat := 12
def maxCaptionFontPx : Nat := 200
def maxCaptionStrokePx : Nat := 20
def minCaptionLineSpacing : ℚ := 1
def maxCaptionLineSpacing : ℚ := 3
def maxAudioRenderClips : Nat := 1536
def maxAudioClipsPerTrack : Nat := 512
def minAudioGainDb : ℚ := -60
def maxAudioGainDb : ℚ := 12

/-- mirrors local_rendering.py:62-77 -/
inductive VisualTransitionKind where
  | fade | dissolve | wipe
  deriving DecidableEq, Repr

inductive AudioTrackKind where
  | narration | ambient | music
  deriving DecidableEq, Repr

inductive OriginalAudioMode where
  | autoDuck | fixedVolume | muted
  deriving DecidableEq, Repr

/-- `SegmentSelectionMaterialKind`, its two members with a picture. -/
inductive MaterialKind where
  | video | image
  deriving DecidableEq, Repr

/-- `_is_canonical_uuid4`. -/
def isCanonicalUuid4 (value : Uuid) : Bool := Uuid.version value = some 4 ∧ value ≠ 0

/-- `_valid_output_side`. -/
def validOutputSide (value : Nat) : Bool :=
  minOutputDimension ≤ value ∧ value ≤ maxOutputDimension ∧ value % 2 = 0

/-- The sequences of a plan count from one. -/
def Numbered (sequences : List Nat) : Prop := sequences = List.range' 1 sequences.length

instance (sequences : List Nat) : Decidable (Numbered sequences) :=
  inferInstanceAs (Decidable (_ = _))

/-! ## Sound -/

structure AudioRenderClipFields where
  sequence : Nat
  trackKind : AudioTrackKind
  materialId : Uuid
  startMs : Nat
  durationMs : Nat
  sourceInMs : Nat
  sourceOutMs : Nat
  gainDb : ℚ
  originalAudioMode : Option OriginalAudioMode
  deriving DecidableEq

def AudioRenderClipFields.endMs (c : AudioRenderClipFields) : Nat := c.startMs + c.durationMs

/-- `LocalEditingAudioRenderClip.__post_init__`.
mirrors local_rendering.py:115-141 -/
@[mk_iff] structure AudioRenderClipFields.Valid (c : AudioRenderClipFields) : Prop where
  sequence_pos : 1 ≤ c.sequence
  sequence_le : c.sequence ≤ maxAudioRenderClips
  materialId : isCanonicalUuid4 c.materialId = true
  duration_pos : 1 ≤ c.durationMs
  duration_le : c.durationMs ≤ maxRenderDurationMs
  end_le : c.endMs ≤ maxRenderDurationMs
  source_le : c.sourceOutMs ≤ maxSourceDurationMs
  source : c.sourceOutMs = c.sourceInMs + c.durationMs
  gain_ge : minAudioGainDb ≤ c.gainDb
  gain_le : c.gainDb ≤ maxAudioGainDb
  mode : c.originalAudioMode.isSome = decide (c.trackKind = .ambient)

instance (c : AudioRenderClipFields) : Decidable c.Valid :=
  decidable_of_iff _ (AudioRenderClipFields.valid_iff c).symm

structure AudioRenderClip extends AudioRenderClipFields where
  valid : toAudioRenderClipFields.Valid

def AudioRenderClip.make (c : AudioRenderClipFields) : Option AudioRenderClip :=
  if h : c.Valid then some ⟨c, h⟩ else none

/-- The order of the lanes in a sound plan. -/
def AudioTrackKind.order : AudioTrackKind → Nat
  | .narration => 0
  | .ambient => 1
  | .music => 2

/-- The loop over the clips of a sound plan: the lanes in their order, and on each lane one
clip after another.
mirrors local_rendering.py:202-218 -/
def validAudioLayout (durationMs previousOrder : Nat) (previousEnd : AudioTrackKind → Nat) :
    List AudioRenderClip → Bool
  | [] => true
  | clip :: clips =>
    previousOrder ≤ clip.trackKind.order ∧ previousEnd clip.trackKind ≤ clip.startMs ∧
      clip.endMs ≤ durationMs ∧
      validAudioLayout durationMs clip.trackKind.order
        (fun kind => if kind = clip.trackKind then clip.endMs else previousEnd kind) clips

structure AudioRenderPlanFields where
  projectId : Uuid
  timelineId : Uuid
  timelineRevision : Nat
  durationMs : Nat
  clips : List AudioRenderClip

/-- `LocalEditingAudioRenderPlan.__post_init__`.
mirrors local_rendering.py:178-219 -/
@[mk_iff] structure AudioRenderPlanFields.Valid (p : AudioRenderPlanFields) : Prop where
  projectId : isCanonicalUuid4 p.projectId = true
  timelineId : isCanonicalUuid4 p.timelineId = true
  revision_pos : 1 ≤ p.timelineRevision
  duration_ge : minRenderDurationMs ≤ p.durationMs
  duration_le : p.durationMs ≤ maxRenderDurationMs
  length_le : p.clips.length ≤ maxAudioRenderClips
  sequences : Numbered (p.clips.map (·.sequence))
  perTrack : ∀ kind ∈ [AudioTrackKind.narration, .ambient, .music],
    p.clips.countP (fun clip => clip.trackKind = kind) ≤ maxAudioClipsPerTrack
  layout : validAudioLayout p.durationMs 0 (fun _ => 0) p.clips = true

instance (p : AudioRenderPlanFields) : Decidable p.Valid :=
  decidable_of_iff _ (AudioRenderPlanFields.valid_iff p).symm

structure AudioRenderPlan extends AudioRenderPlanFields where
  valid : toAudioRenderPlanFields.Valid

def AudioRenderPlan.make (p : AudioRenderPlanFields) : Option AudioRenderPlan :=
  if h : p.Valid then some ⟨p, h⟩ else none

/-! ## Captions -/

structure CaptionRenderStyleFields where
  fontKey : List Char
  fontPx : Nat
  strokePx : Nat
  lineSpacing : ℚ
  deriving DecidableEq

/-- `LocalEditingCaptionRenderStyle.__post_init__`; `_FONT_KEY_PATTERN` is the pattern of
local ids.
mirrors local_rendering.py:238-254 -/
@[mk_iff] structure CaptionRenderStyleFields.Valid (s : CaptionRenderStyleFields) : Prop where
  fontKey : localIdPattern s.fontKey = true
  font_ge : minCaptionFontPx ≤ s.fontPx
  font_le : s.fontPx ≤ maxCaptionFontPx
  stroke_le : s.strokePx ≤ maxCaptionStrokePx
  spacing_ge : minCaptionLineSpacing ≤ s.lineSpacing
  spacing_le : s.lineSpacing ≤ maxCaptionLineSpacing
  stroke : s.strokePx * 2 < s.fontPx

instance (s : CaptionRenderStyleFields) : Decidable s.Valid :=
  decidable_of_iff _ (CaptionRenderStyleFields.valid_iff s).symm

structure CaptionRenderStyle extends CaptionRenderStyleFields where
  valid : toCaptionRenderStyleFields.Valid

def CaptionRenderStyle.make (s : CaptionRenderStyleFields) : Option CaptionRenderStyle :=
  if h : s.Valid then some ⟨s, h⟩ else none

structure CaptionRenderCueFields where
  sequence : Nat
  startMs : Nat
  durationMs : Nat
  text : List Char
  deriving DecidableEq

def CaptionRenderCueFields.endMs (c : CaptionRenderCueFields) : Nat := c.startMs + c.durationMs

section

variable [UnicodeData]

/-- `_valid_caption_text`. -/
def validCaptionText (value : List Char) : Bool := validateText maxCaptionTextCharacters value

/-- `LocalEditingCaptionRenderCue.__post_init__`.
mirrors local_rendering.py:280-291 -/
@[mk_iff] structure CaptionRenderCueFields.Valid (c : CaptionRenderCueFields) : Prop where
  sequence_pos : 1 ≤ c.sequence
  sequence_le : c.sequence ≤ maxCaptionCues
  duration_pos : 1 ≤ c.durationMs
  duration_le : c.durationMs ≤ maxRenderDurationMs
  end_le : c.endMs ≤ maxRenderDurationMs
  text : validCaptionText c.text = true

instance (c : CaptionRenderCueFields) : Decidable c.Valid :=
  decidable_of_iff _ (CaptionRenderCueFields.valid_iff c).symm

structure CaptionRenderCue extends CaptionRenderCueFields where
  valid : toCaptionRenderCueFields.Valid

def CaptionRenderCue.make (c : CaptionRenderCueFields) : Option CaptionRenderCue :=
  if h : c.Valid then some ⟨c, h⟩ else none

/-- The loop over the cues: one after another, inside the film. -/
def validCueLayout (durationMs previousEnd : Nat) : List CaptionRenderCue → Bool
  | [] => true
  | cue :: cues =>
    previousEnd ≤ cue.startMs ∧ cue.endMs ≤ durationMs ∧ validCueLayout durationMs cue.endMs cues

structure CaptionRenderPlanFields where
  projectId : Uuid
  timelineId : Uuid
  timelineRevision : Nat
  outputWidth : Nat
  outputHeight : Nat
  outputFps : Nat
  durationMs : Nat
  style : CaptionRenderStyle
  cues : List CaptionRenderCue

/-- `LocalEditingCaptionRenderPlan.__post_init__`.
mirrors local_rendering.py:329-368 -/
@[mk_iff] structure CaptionRenderPlanFields.Valid (p : CaptionRenderPlanFields) : Prop where
  projectId : isCanonicalUuid4 p.projectId = true
  timelineId : isCanonicalUuid4 p.timelineId = true
  revision_pos : 1 ≤ p.timelineRevision
  width : validOutputSide p.outputWidth = true
  height : validOutputSide p.outputHeight = true
  fps_ge : minOutputFps ≤ p.outputFps
  fps_le : p.outputFps ≤ maxOutputFps
  duration_ge : minRenderDurationMs ≤ p.durationMs
  duration_le : p.durationMs ≤ maxRenderDurationMs
  font_le : p.style.fontPx ≤ p.outputHeight
  length_le : p.cues.length ≤ maxCaptionCues
  sequences : Numbered (p.cues.map (·.sequence))
  layout : validCueLayout p.durationMs 0 p.cues = true

instance (p : CaptionRenderPlanFields) : Decidable p.Valid :=
  decidable_of_iff _ (CaptionRenderPlanFields.valid_iff p).symm

structure CaptionRenderPlan extends CaptionRenderPlanFields where
  valid : toCaptionRenderPlanFields.Valid

def CaptionRenderPlan.make (p : CaptionRenderPlanFields) : Option CaptionRenderPlan :=
  if h : p.Valid then some ⟨p, h⟩ else none

end

/-! ## Picture -/

structure VisualRenderClipFields where
  sequence : Nat
  materialId : Uuid
  kind : MaterialKind
  startMs : Nat
  durationMs : Nat
  sourceInMs : Option Nat
  sourceOutMs : Option Nat
  transitionKind : Option VisualTransitionKind
  transitionDurationMs : Option Nat
  deriving DecidableEq

namespace VisualRenderClipFields

def endMs (c : VisualRenderClipFields) : Nat := c.startMs + c.durationMs

/-- `_validate_source_window`: a still has none, of a video exactly the clip's length. -/
def validateSourceWindow (c : VisualRenderClipFields) : Bool :=
  match c.kind, c.sourceInMs, c.sourceOutMs with
  | .image, none, none => true
  | .video, some sourceIn, some sourceOut =>
    sourceOut ≤ maxSourceDurationMs ∧ sourceOut = sourceIn + c.durationMs
  | _, _, _ => false

/-- `_validate_transition`. -/
def validateTransition (c : VisualRenderClipFields) : Bool :=
  match c.transitionKind, c.transitionDurationMs with
  | none, none => true
  | some _, some duration =>
    1 ≤ duration ∧ duration ≤ maxTransitionDurationMs ∧ duration < c.durationMs
  | _, _ => false

/-- `LocalEditingVisualRenderClip.__post_init__`.
mirrors local_rendering.py:400-443 -/
@[mk_iff] structure Valid (c : VisualRenderClipFields) : Prop where
  sequence_pos : 1 ≤ c.sequence
  sequence_le : c.sequence ≤ maxRenderClips
  materialId : isCanonicalUuid4 c.materialId = true
  duration_pos : 1 ≤ c.durationMs
  duration_le : c.durationMs ≤ maxRenderDurationMs
  end_le : c.endMs ≤ maxRenderDurationMs
  source : c.validateSourceWindow = true
  transition : c.validateTransition = true

instance (c : VisualRenderClipFields) : Decidable c.Valid :=
  decidable_of_iff _ (valid_iff c).symm

end VisualRenderClipFields

structure VisualRenderClip extends VisualRenderClipFields where
  valid : toVisualRenderClipFields.Valid

def VisualRenderClip.make (c : VisualRenderClipFields) : Option VisualRenderClip :=
  if h : c.Valid then some ⟨c, h⟩ else none

/-- How far a clip starts before the end of the one it follows. -/
def VisualRenderClip.overlap (clip : VisualRenderClip) : Nat := clip.transitionDurationMs.getD 0

/-- The loop of `_validate_layout`, and the comparison after it.
mirrors local_rendering.py:513-525 -/
def validVisualLayout (durationMs previousEnd previousTail : Nat) : List VisualRenderClip → Bool
  | [] => previousEnd = durationMs
  | clip :: clips =>
    (clip.transitionKind = none ∨ clip.overlap < previousTail) ∧
      clip.startMs + clip.overlap = previousEnd ∧
      validVisualLayout durationMs clip.endMs (clip.durationMs - clip.overlap) clips

structure VisualRenderPlanFields where
  projectId : Uuid
  timelineId : Uuid
  timelineRevision : Nat
  outputWidth : Nat
  outputHeight : Nat
  outputFps : Nat
  durationMs : Nat
  clips : List VisualRenderClip

/-- `LocalEditingVisualRenderPlan.__post_init__`.
mirrors local_rendering.py:480-503 -/
@[mk_iff] structure VisualRenderPlanFields.Valid (p : VisualRenderPlanFields) : Prop where
  projectId : isCanonicalUuid4 p.projectId = true
  timelineId : isCanonicalUuid4 p.timelineId = true
  revision_pos : 1 ≤ p.timelineRevision
  width : validOutputSide p.outputWidth = true
  height : validOutputSide p.outputHeight = true
  fps_ge : minOutputFps ≤ p.outputFps
  fps_le : p.outputFps ≤ maxOutputFps
  duration_ge : minRenderDurationMs ≤ p.durationMs
  duration_le : p.durationMs ≤ maxRenderDurationMs
  nonempty : 1 ≤ p.clips.length
  length_le : p.clips.length ≤ maxRenderClips
  sequences : Numbered (p.clips.map (·.sequence))
  layout : validVisualLayout p.durationMs 0 0 p.clips = true

instance (p : VisualRenderPlanFields) : Decidable p.Valid :=
  decidable_of_iff _ (VisualRenderPlanFields.valid_iff p).symm

structure VisualRenderPlan extends VisualRenderPlanFields where
  valid : toVisualRenderPlanFields.Valid

def VisualRenderPlan.make (p : VisualRenderPlanFields) : Option VisualRenderPlan :=
  if h : p.Valid then some ⟨p, h⟩ else none

end AutomationTool.LocalEditing
