import AutomationTool.Core.Hex
import AutomationTool.Core.Json
import AutomationTool.Editing.Timeline

/-!
# A timeline as it is saved

The control plane reads the body of a save request into models of its own, which check the
bounds of every number and text, and builds the clips and the tracks of the domain from
them. `saveRequest` is both steps: `none` is a request that is answered with 422.
-/
namespace AutomationTool.Editing

/-! ## Values -/

def between? (low high : Nat) : Json → Option Nat
  | .int (.ofNat n) => if low ≤ n ∧ n ≤ high then some n else none
  | _ => none

/-- A text whose length has bounds. -/
def text? (low high : Nat) : Json → Option (List Char)
  | .str text => if low ≤ text.length ∧ text.length ≤ high then some text else none
  | _ => none

/-- A whole number is taken for a gain, too. -/
def gain? : Json → Option ℚ
  | .float x => if minGainDb ≤ x ∧ x ≤ maxGainDb then some x else none
  | .int n => if minGainDb ≤ n ∧ n ≤ maxGainDb then some n else none
  | _ => none

/-- A list whose length has bounds. -/
def items? {α : Type} (low high : Nat) (read : Json → Option α) (j : Json) : Option (List α) := do
  let items ← j.list? read
  if low ≤ items.length ∧ items.length ≤ high then return items else none

def TimelineTrackKind.value : TimelineTrackKind → List Char
  | .visual => "visual".toList
  | .narration => "narration".toList
  | .ambient => "ambient".toList
  | .music => "music".toList
  | .caption => "caption".toList

def OriginalAudioMode.value : OriginalAudioMode → List Char
  | .autoDuck => "auto_duck".toList
  | .fixedVolume => "fixed_volume".toList
  | .muted => "muted".toList

def TransitionKind.value : TransitionKind → List Char
  | .fade => "fade".toList
  | .dissolve => "dissolve".toList
  | .wipe => "wipe".toList

/-- The member of an enumeration with the given text. -/
def enum? {α : Type} (value : α → List Char) (members : List α) : Json → Option α
  | .str text => members.find? fun a => value a = text
  | _ => none

def trackKinds : List TimelineTrackKind := [.visual, .narration, .ambient, .music, .caption]

def trackKind? : Json → Option TimelineTrackKind := enum? TimelineTrackKind.value trackKinds

def audioMode? : Json → Option OriginalAudioMode :=
  enum? OriginalAudioMode.value [.autoDuck, .fixedVolume, .muted]

def transitionKind? : Json → Option TransitionKind :=
  enum? TransitionKind.value [.fade, .dissolve, .wipe]

theorem trackKind?_value (kind : TimelineTrackKind) :
    trackKind? (.str kind.value) = some kind := by
  cases kind <;> rfl

theorem audioMode?_value (mode : OriginalAudioMode) :
    audioMode? (.str mode.value) = some mode := by
  cases mode <;> rfl

/-! ## The models of the request -/

/-- mirrors api/editing_timelines.py:56-67 -/
structure EditingTimelineTransition where
  kind : TransitionKind
  durationMs : Nat

def EditingTimelineTransition.ofJson (j : Json) : Option EditingTimelineTransition := do
  let members ← j.fields ["kind", "durationMs"]
  return {
    kind := ← Json.required members "kind" transitionKind?
    durationMs := ← Json.required members "durationMs" (between? 1 maxTransitionDurationMs) }

/-- `TimelineTransition(...)`. -/
def EditingTimelineTransition.toDomain (t : EditingTimelineTransition) : Option TimelineTransition :=
  if h : 1 ≤ t.durationMs ∧ t.durationMs ≤ maxTransitionDurationMs then
    some ⟨t.kind, t.durationMs, h.1, h.2⟩
  else none

/-- mirrors api/editing_timelines.py:70-104 -/
structure EditingTimelineClip where
  clipId : List Char
  startMs : Nat
  durationMs : Nat
  sourceMaterialId : Option (List Char)
  sourceInMs : Option Nat
  sourceOutMs : Option Nat
  text : Option (List Char)
  gainDb : Option ℚ
  transitionIn : Option EditingTimelineTransition
  originalAudioMode : Option OriginalAudioMode

def EditingTimelineClip.ofJson (j : Json) : Option EditingTimelineClip := do
  let members ← j.fields ["clipId", "startMs", "durationMs", "sourceMaterialId", "sourceInMs",
    "sourceOutMs", "text", "gainDb", "transitionIn", "originalAudioMode"]
  return {
    clipId := ← Json.required members "clipId" (text? 1 64)
    startMs := ← Json.required members "startMs" (between? 0 maxTimelineDurationMs)
    durationMs := ← Json.required members "durationMs" (between? 1 maxTimelineDurationMs)
    sourceMaterialId := ← Json.required members "sourceMaterialId" (Json.option? Json.str?)
    sourceInMs := ← Json.required members "sourceInMs"
      (Json.option? (between? 0 maxMaterialDurationMs))
    sourceOutMs := ← Json.required members "sourceOutMs"
      (Json.option? (between? 0 maxMaterialDurationMs))
    text := ← Json.required members "text" (Json.option? (text? 0 maxClipTextCharacters))
    gainDb := ← Json.required members "gainDb" (Json.option? gain?)
    transitionIn := ← Json.required members "transitionIn"
      (Json.option? EditingTimelineTransition.ofJson)
    originalAudioMode := (← Json.optional members "originalAudioMode" audioMode?) }

/-- `MaterialId.parse` of a text: the canonical text of a version 4 UUID. -/
def MaterialId.parseText (value : List Char) : Option MaterialId := do
  let parsed ← Hex.ofHyphenated value
  if Hex.hyphenated parsed = value then MaterialId.parse parsed else none

section

variable [UnicodeData]

/-- mirrors api/editing_timelines.py:106-122 -/
def EditingTimelineClip.toDomain (c : EditingTimelineClip) : Option TimelineClip := do
  let sourceMaterialId ← c.sourceMaterialId.mapM MaterialId.parseText
  let transitionIn ← c.transitionIn.mapM EditingTimelineTransition.toDomain
  TimelineClip.make
    { clipId := c.clipId
      startMs := c.startMs
      durationMs := c.durationMs
      sourceMaterialId
      sourceInMs := c.sourceInMs
      sourceOutMs := c.sourceOutMs
      text := c.text
      gainDb := c.gainDb
      transitionIn
      originalAudioMode := c.originalAudioMode }

end

/-- mirrors api/editing_timelines.py:125-140 -/
structure EditingTimelineTrack where
  trackId : List Char
  kind : TimelineTrackKind
  clips : List EditingTimelineClip

def EditingTimelineTrack.ofJson (j : Json) : Option EditingTimelineTrack := do
  let members ← j.fields ["trackId", "kind", "clips"]
  return {
    trackId := ← Json.required members "trackId" (text? 1 64)
    kind := ← Json.required members "kind" trackKind?
    clips := ← Json.required members "clips" (items? 1 maxClipsPerTrack EditingTimelineClip.ofJson) }

/-- mirrors api/editing_timelines.py:143-160 -/
structure EditingTimelineSaveRequest where
  durationMs : Nat
  tracks : List EditingTimelineTrack
  expectedRevision : Option Nat

/-- A revision is any number from zero. -/
def revision? : Json → Option Nat
  | .int (.ofNat n) => some n
  | _ => none

def EditingTimelineSaveRequest.ofJson (j : Json) : Option EditingTimelineSaveRequest := do
  let members ← j.fields ["durationMs", "tracks", "expectedRevision"]
  return {
    durationMs := ← Json.required members "durationMs"
      (between? minTimelineDurationMs maxTimelineDurationMs)
    tracks := ← Json.required members "tracks"
      (items? 1 trackKinds.length EditingTimelineTrack.ofJson)
    expectedRevision := (← Json.optional members "expectedRevision" revision?) }

variable [UnicodeData]

def EditingTimelineTrack.toDomain (t : EditingTimelineTrack) : Option TimelineTrack := do
  let clips ← t.clips.mapM EditingTimelineClip.toDomain
  TimelineTrack.make ⟨t.trackId, t.kind, clips⟩

/-- What `save_editing_project_timeline` hands to the service: the duration and the tracks. -/
def saveRequest (payload : Json) : Option (Nat × List TimelineTrack) := do
  let request ← EditingTimelineSaveRequest.ofJson payload
  let tracks ← request.tracks.mapM EditingTimelineTrack.toDomain
  return (request.durationMs, tracks)

end AutomationTool.Editing
