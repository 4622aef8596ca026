import AutomationTool.Editing.Timeline

/-!
# The material library

One imported source file and what is known about it. A value of `Material` passed the
checks of the source's constructor, which are its last field. The columns fall into groups
that different writers replace: what a person or a model said about the picture
(`descriptionValues`, `understandingValues`), what was heard (`speechAnalysisValues`), and
what probing found once and for all (`probeValues`).

* `valid_of_groups`: whether a material is valid depends on each group by itself, next to
  what probing found.
-/
namespace AutomationTool.Editing

open Protocol

/-- mirrors domain/material.py:14-21 -/
def maxMaterialDimension : Nat := 8192
def maxDescriptionCharacters : Nat := 2000
def maxTranscriptCharacters : Nat := 100000
def maxTags : Nat := 32
def maxTagCharacters : Nat := 32
def maxShotBoundaries : Nat := 4096
def maxSpeechSegments : Nat := 4096
def minLoudnessLufs : ℚ := -70

inductive MaterialKind where
  | video | image | audio
  deriving DecidableEq, Repr

inductive DescriptionSource where
  | ai | user
  deriving DecidableEq, Repr

/-- `_SHA256_PATTERN`. -/
def sha256Pattern (value : List Char) : Bool :=
  value.length = 64 ∧ value.all fun c => ('0' ≤ c ∧ c ≤ '9') ∨ ('a' ≤ c ∧ c ≤ 'f')

/-- What probing found. -/
structure ProbeValues where
  kind : MaterialKind
  durationMs : Option Nat
  width : Option Nat
  height : Option Nat
  contentDigest : List Char
  hasAudio : Bool
  audioLoudnessLufs : Option ℚ
  deriving DecidableEq

/-- `_speech_analysis_values`. -/
structure SpeechAnalysisValues where
  hasSpeech : Bool
  speechSegmentsMs : List (Nat × Nat)
  speechTranscript : Option (List Char)
  deriving DecidableEq

/-- `_description_values`. -/
@[ext] structure DescriptionValues where
  aiDescription : Option (List Char)
  aiTags : List (List Char)
  descriptionSource : DescriptionSource
  describedAt : Option Time
  deriving DecidableEq

/-- `_understanding_values`. -/
@[ext] structure UnderstandingValues extends DescriptionValues where
  shotBoundariesMs : List Nat
  deriving DecidableEq

/-- The columns of a material, by group. -/
structure MaterialFields extends ProbeValues, SpeechAnalysisValues, UnderstandingValues where
  materialId : MaterialId
  deriving DecidableEq

/-! ## The rules -/

/-- mirrors domain/material.py:155-163 -/
def ProbeValues.validateFrameSize (p : ProbeValues) : Bool :=
  if p.kind = .audio then p.width = none ∧ p.height = none
  else p.width.any (fun w => 1 ≤ w ∧ w ≤ maxMaterialDimension) ∧
    p.height.any fun h => 1 ≤ h ∧ h ≤ maxMaterialDimension

/-- mirrors domain/material.py:165-174 -/
def ProbeValues.validateDuration (p : ProbeValues) : Bool :=
  if p.kind = .image then p.durationMs = none
  else p.durationMs.any fun d => 1 ≤ d ∧ d ≤ maxMaterialDurationMs

/-- The segments lie one behind the other, inside the file. -/
def validateSegments (durationMs : Option Nat) : Nat → List (Nat × Nat) → Bool
  | _, [] => true
  | previousEnd, (start, stop) :: segments =>
    previousEnd ≤ start ∧ start < stop ∧ durationMs.all (stop ≤ ·) ∧
      validateSegments durationMs stop segments

section

variable [UnicodeData]

/-- `_validate_audio`, as far as the sound itself goes.
mirrors domain/material.py:176-190 -/
def ProbeValues.validateSound (p : ProbeValues) : Bool :=
  (p.kind = .image → p.hasAudio = false) ∧ (p.kind = .audio → p.hasAudio = true) ∧
    p.audioLoudnessLufs.all fun loudness =>
      p.hasAudio ∧ minLoudnessLufs ≤ loudness ∧ loudness ≤ 0

/-- `_validate_audio`, as far as speech goes.
mirrors domain/material.py:183-212 -/
def SpeechAnalysisValues.validateSpeech (p : ProbeValues) (v : SpeechAnalysisValues) : Bool :=
  if v.hasSpeech = false then v.speechSegmentsMs = [] ∧ v.speechTranscript = none
  else
    p.hasAudio ∧ 1 ≤ v.speechSegmentsMs.length ∧ v.speechSegmentsMs.length ≤ maxSpeechSegments ∧
      v.speechTranscript.any (validateText maxTranscriptCharacters) ∧
      validateSegments p.durationMs 0 v.speechSegmentsMs

/-- The boundaries increase, inside the file. -/
def validateBoundaries (durationMs : Nat) : Option Nat → List Nat → Bool
  | _, [] => true
  | previous, boundary :: boundaries =>
    previous.all (· < boundary) ∧ boundary < durationMs ∧
      validateBoundaries durationMs (some boundary) boundaries

/-- mirrors domain/material.py:215-232 -/
def validateShotBoundaries (p : ProbeValues) (shotBoundariesMs : List Nat) : Bool :=
  if shotBoundariesMs = [] then true
  else
    p.kind ≠ .audio ∧ shotBoundariesMs.length ≤ maxShotBoundaries ∧
      p.durationMs.any fun d => validateBoundaries d none shotBoundariesMs

/-- mirrors domain/material.py:234-261 -/
def DescriptionValues.validateDescription (v : DescriptionValues) : Bool :=
  v.aiDescription.all (validateText maxDescriptionCharacters) ∧ v.aiTags.length ≤ maxTags ∧
    v.aiTags.all (validateText maxTagCharacters) ∧ v.aiTags.Nodup ∧
    (v.aiDescription = none → v.aiTags = [] ∧ v.describedAt = none) ∧
    (v.descriptionSource = .ai → v.aiDescription ≠ none → v.describedAt ≠ none) ∧
    (v.descriptionSource = .user →
      v.describedAt = none ∧ v.aiDescription ≠ none ∧ v.aiTags = [])

/-- `Material.__post_init__`.
mirrors domain/material.py:141-153 -/
structure MaterialFields.Valid (m : MaterialFields) : Prop where
  digest : sha256Pattern m.contentDigest = true
  frameSize : m.validateFrameSize = true
  duration : m.validateDuration = true
  sound : m.validateSound = true
  speech : m.toSpeechAnalysisValues.validateSpeech m.toProbeValues = true
  shots : validateShotBoundaries m.toProbeValues m.shotBoundariesMs = true
  description : m.validateDescription = true

instance (m : MaterialFields) : Decidable m.Valid :=
  decidable_of_iff
    (sha256Pattern m.contentDigest = true ∧ m.validateFrameSize = true ∧
      m.validateDuration = true ∧ m.validateSound = true ∧
      m.toSpeechAnalysisValues.validateSpeech m.toProbeValues = true ∧
      validateShotBoundaries m.toProbeValues m.shotBoundariesMs = true ∧
      m.validateDescription = true)
    ⟨fun ⟨a, b, c, d, e, f, g⟩ => ⟨a, b, c, d, e, f, g⟩,
      fun ⟨a, b, c, d, e, f, g⟩ => ⟨a, b, c, d, e, f, g⟩⟩

/-- Groups of columns that are each valid beside the same probing make a material. -/
theorem valid_of_groups {m a b c : MaterialFields} (ha : a.Valid) (hb : b.Valid) (hc : c.Valid)
    (hpa : m.toProbeValues = a.toProbeValues) (hpc : m.toProbeValues = c.toProbeValues)
    (hspeech : m.toSpeechAnalysisValues = a.toSpeechAnalysisValues)
    (hdescription : m.toDescriptionValues = b.toDescriptionValues)
    (hshots : m.shotBoundariesMs = c.shotBoundariesMs) : m.Valid where
  digest := hpa ▸ ha.digest
  frameSize := hpa ▸ ha.frameSize
  duration := hpa ▸ ha.duration
  sound := hpa ▸ ha.sound
  speech := by
    rw [hpa, hspeech]
    exact ha.speech
  shots := by
    rw [hpc, hshots]
    exact hc.shots
  description := by
    rw [hdescription]
    exact hb.description

structure Material extends MaterialFields where
  valid : toMaterialFields.Valid
  deriving DecidableEq

namespace Material

/-- `Material(...)`: `none` is `InvalidMaterialModel`. -/
def make (m : MaterialFields) : Option Material := if h : m.Valid then some ⟨m, h⟩ else none

theorem make_valid {m : MaterialFields} (h : m.Valid) : make m = some ⟨m, h⟩ := dif_pos h

theorem make_eq_some {m : MaterialFields} {material : Material} (h : make m = some material) :
    material.toMaterialFields = m := by
  unfold make at h
  split at h <;> cases h
  rfl

/-- mirrors domain/material.py:263-287 -/
def withAiUnderstanding (m : Material) (description : List Char) (tags : List (List Char))
    (shotBoundariesMs : List Nat) (describedAt : Time) : Option Material :=
  if m.descriptionSource = .user then some m
  else
    make { m.toMaterialFields with
      aiDescription := some description, aiTags := tags, shotBoundariesMs
      describedAt := some describedAt, descriptionSource := .ai }

/-- mirrors domain/material.py:289-304 -/
def withUserDescription (m : Material) (description : List Char) : Option Material :=
  make { m.toMaterialFields with
    aiDescription := some description, aiTags := [], describedAt := none
    descriptionSource := .user }

/-- mirrors domain/material.py:306-321 -/
def withSpeechAnalysis (m : Material) (v : SpeechAnalysisValues) : Option Material :=
  make { m.toMaterialFields with toSpeechAnalysisValues := v }

end Material

end
end AutomationTool.Editing
