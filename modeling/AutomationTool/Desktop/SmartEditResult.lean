import AutomationTool.Core.Hex
import AutomationTool.Core.Json
import AutomationTool.Editing.Materials

/-!
# The host's reading of a smart edit

The desktop host takes the document of a finished smart edit from its worker, reads it
into `VideoWorkerSmartEditResult` and validates it; `writebackRequest` is what it sends to
the control plane's material library, and has checks of its own.

What the host's libraries say of characters and of timestamps is a parameter, `HostText`.
-/
namespace AutomationTool.Desktop

open Editing

/-- `char::is_whitespace`, `char::is_control`, `\p{C}`, and whether a text is an RFC 3339
time in UTC. -/
class HostText where
  isWhitespace : Char → Bool
  isControl : Char → Bool
  isOther : Char → Bool
  isUtcTime : List Char → Bool

/-- mirrors control_plane.rs:574 -/
def maxEditingMaterialDurationMs : Nat := 14400000

/-! ## What is read -/

/-- mirrors control_plane.rs:692-705 -/
structure SmartEditMaterialAnalysisRequest where
  materialId : List Char
  contentDigest : List Char
  hasSpeech : Bool
  speechSegmentsMs : List (Nat × Nat)
  speechTranscript : Option (List Char)
  shotBoundariesMs : List Nat
  aiDescription : Option (List Char)
  aiTags : List (List Char)
  descriptionSource : List Char
  describedAt : Option (List Char)
  deriving DecidableEq

/-- mirrors control_plane.rs:707-714 -/
structure SmartEditNarrationMaterialRequest where
  materialId : List Char
  contentDigest : List Char
  durationMs : Nat
  speechTranscript : List Char
  deriving DecidableEq

/-- mirrors control_plane.rs:716-721 -/
structure SmartEditMaterialWritebackRequest where
  analyses : List SmartEditMaterialAnalysisRequest
  narrations : List SmartEditNarrationMaterialRequest
  deriving DecidableEq

inductive VideoWorkerSmartEditParagraphKind where
  | originalSpeech | narrated
  deriving DecidableEq, Repr

/-- mirrors local_video_orchestrator.rs:505-516 -/
structure VideoWorkerSmartEditParagraph where
  audioMaterialId : List Char
  captionText : List Char
  durationMs : Nat
  kind : VideoWorkerSmartEditParagraphKind
  sequence : Nat
  visualMaterialId : List Char
  visualSourceInMs : Option Nat
  visualSourceOutMs : Option Nat
  deriving DecidableEq

structure VideoWorkerSmartEditDraft where
  durationMs : Nat
  paragraphs : List VideoWorkerSmartEditParagraph
  deriving DecidableEq

/-- mirrors local_video_orchestrator.rs:525-534 -/
structure VideoWorkerSmartEditNarrationRegistration where
  bytesWritten : Nat
  contentDigest : List Char
  durationMs : Nat
  materialId : List Char
  relativePath : List Char
  sequence : Nat
  deriving DecidableEq

/-- mirrors local_video_orchestrator.rs:536-544 -/
structure VideoWorkerSmartEditResult where
  analysisUpdates : List SmartEditMaterialAnalysisRequest
  draft : VideoWorkerSmartEditDraft
  jobId : List Char
  narrationRegistrations : List VideoWorkerSmartEditNarrationRegistration
  schemaVersion : List Char
  deriving DecidableEq

/-! ### Deserializing

Unsigned numbers have their width; an `Option` may be `null` or missing. -/

def u32? (j : Json) : Option Nat := Json.nat? 0x100000000 j
def u64? (j : Json) : Option Nat := Json.nat? 0x10000000000000000 j

def segment? : Json → Option (Nat × Nat)
  | .arr [start, stop] => do return (← u64? start, ← u64? stop)
  | _ => none

def SmartEditMaterialAnalysisRequest.ofJson (j : Json) : Option SmartEditMaterialAnalysisRequest := do
  let members ← j.fields ["materialId", "contentDigest", "hasSpeech", "speechSegmentsMs",
    "speechTranscript", "shotBoundariesMs", "aiDescription", "aiTags", "descriptionSource",
    "describedAt"]
  return {
    materialId := ← Json.required members "materialId" Json.str?
    contentDigest := ← Json.required members "contentDigest" Json.str?
    hasSpeech := ← Json.required members "hasSpeech" Json.bool?
    speechSegmentsMs := ← Json.required members "speechSegmentsMs" (Json.list? segment?)
    speechTranscript := ← Json.optional members "speechTranscript" Json.str?
    shotBoundariesMs := ← Json.required members "shotBoundariesMs" (Json.list? u64?)
    aiDescription := ← Json.optional members "aiDescription" Json.str?
    aiTags := ← Json.required members "aiTags" (Json.list? Json.str?)
    descriptionSource := ← Json.required members "descriptionSource" Json.str?
    describedAt := ← Json.optional members "describedAt" Json.str? }

def VideoWorkerSmartEditParagraphKind.ofJson : Json → Option VideoWorkerSmartEditParagraphKind
  | .str text =>
    if text = "original_speech".toList then some .originalSpeech
    else if text = "narrated".toList then some .narrated
    else none
  | _ => none

def VideoWorkerSmartEditParagraph.ofJson (j : Json) : Option VideoWorkerSmartEditParagraph := do
  let members ← j.fields ["audioMaterialId", "captionText", "durationMs", "kind", "sequence",
    "visualMaterialId", "visualSourceInMs", "visualSourceOutMs"]
  return {
    audioMaterialId := ← Json.required members "audioMaterialId" Json.str?
    captionText := ← Json.required members "captionText" Json.str?
    durationMs := ← Json.required members "durationMs" u64?
    kind := ← Json.required members "kind" VideoWorkerSmartEditParagraphKind.ofJson
    sequence := ← Json.required members "sequence" u32?
    visualMaterialId := ← Json.required members "visualMaterialId" Json.str?
    visualSourceInMs := ← Json.optional members "visualSourceInMs" u64?
    visualSourceOutMs := ← Json.optional members "visualSourceOutMs" u64? }

def VideoWorkerSmartEditDraft.ofJson (j : Json) : Option VideoWorkerSmartEditDraft := do
  let members ← j.fields ["durationMs", "paragraphs"]
  return {
    durationMs := ← Json.required members "durationMs" u64?
    paragraphs := ← Json.required members "paragraphs"
      (Json.list? VideoWorkerSmartEditParagraph.ofJson) }

def VideoWorkerSmartEditNarrationRegistration.ofJson (j : Json) :
    Option VideoWorkerSmartEditNarrationRegistration := do
  let members ← j.fields ["bytesWritten", "contentDigest", "durationMs", "materialId",
    "relativePath", "sequence"]
  return {
    bytesWritten := ← Json.required members "bytesWritten" u64?
    contentDigest := ← Json.required members "contentDigest" Json.str?
    durationMs := ← Json.required members "durationMs" u64?
    materialId := ← Json.required members "materialId" Json.str?
    relativePath := ← Json.required members "relativePath" Json.str?
    sequence := ← Json.required members "sequence" u32? }

def VideoWorkerSmartEditResult.ofJson (j : Json) : Option VideoWorkerSmartEditResult := do
  let members ← j.fields ["analysisUpdates", "draft", "jobId", "narrationRegistrations",
    "schemaVersion"]
  return {
    analysisUpdates := ← Json.required members "analysisUpdates"
      (Json.list? SmartEditMaterialAnalysisRequest.ofJson)
    draft := ← Json.required members "draft" VideoWorkerSmartEditDraft.ofJson
    jobId := ← Json.required members "jobId" Json.str?
    narrationRegistrations := ← Json.required members "narrationRegistrations"
      (Json.list? VideoWorkerSmartEditNarrationRegistration.ofJson)
    schemaVersion := ← Json.required members "schemaVersion" Json.str? }

/-! ## What is checked -/

/-- `require_canonical_uuid_v4`, and `valid_uuid_v4` of a hyphenated text. -/
def canonicalUuidV4 (value : List Char) : Bool :=
  (Hex.ofHyphenated value).any fun u => Uuid.version u = some 4 ∧ Hex.hyphenated u = value

section

variable [HostText]

/-- `value.trim() == value`. -/
def trimmed (value : List Char) : Bool :=
  value.head?.any HostText.isWhitespace = false ∧ value.getLast?.any HostText.isWhitespace = false

/-- mirrors control_plane.rs:5006-5012 -/
def editingTextHasForbiddenCharacter (value : List Char) (allowLayoutWhitespace : Bool) : Bool :=
  value.any fun c =>
    HostText.isOther c && (!allowLayoutWhitespace || !(c = '\n' || c = '\t'))

/-- A text of at most `maximum` characters, as `control_plane.rs` checks one. -/
def validText (maximum : Nat) (value : List Char) : Bool :=
  value ≠ [] ∧ trimmed value ∧ value.length ≤ maximum ∧
    editingTextHasForbiddenCharacter value true = false

/-- `str::len`: the bytes of a text. -/
def byteLength (value : List Char) : Nat := (value.map Char.utf8Size).sum

/-- mirrors control_plane.rs:5945-5954 -/
def boundedTimestamp (value : List Char) : Bool :=
  value ≠ [] ∧ byteLength value ≤ 64 ∧ HostText.isUtcTime value

/-- mirrors control_plane.rs:5219-5275 -/
def SmartEditMaterialAnalysisRequest.validate (a : SmartEditMaterialAnalysisRequest) : Bool :=
  canonicalUuidV4 a.materialId ∧ sha256Pattern a.contentDigest ∧
    a.speechSegmentsMs.length ≤ 4096 ∧ a.shotBoundariesMs.length ≤ 4096 ∧
    (∀ s ∈ a.speechSegmentsMs, s.1 < s.2) ∧
    (∀ w ∈ a.speechSegmentsMs.zip a.speechSegmentsMs.tail, w.1.2 ≤ w.2.1) ∧
    (∀ w ∈ a.shotBoundariesMs.zip a.shotBoundariesMs.tail, w.1 < w.2) ∧
    a.hasSpeech = (a.speechSegmentsMs ≠ [] && a.speechTranscript.isSome) ∧
    a.speechTranscript.all (validText 100000) ∧ a.aiDescription.all (validText 2000) ∧
    a.aiTags.length ≤ 32 ∧ a.aiTags.all (validText 32) ∧ a.aiTags.Nodup ∧
    (a.descriptionSource = "ai".toList ∨ a.descriptionSource = "user".toList) ∧
    a.describedAt.all boundedTimestamp ∧
    (a.descriptionSource = "user".toList →
      a.aiDescription ≠ none ∧ a.aiTags = [] ∧ a.describedAt = none) ∧
    (a.descriptionSource = "ai".toList →
      a.aiDescription.isSome = a.describedAt.isSome ∧ (a.aiDescription = none → a.aiTags = []))

/-- mirrors control_plane.rs:5278-5291 -/
def SmartEditNarrationMaterialRequest.validate (n : SmartEditNarrationMaterialRequest) : Bool :=
  canonicalUuidV4 n.materialId ∧ sha256Pattern n.contentDigest ∧ 1 ≤ n.durationMs ∧
    n.durationMs ≤ maxEditingMaterialDurationMs ∧ validText 100000 n.speechTranscript

namespace SmartEditMaterialWritebackRequest

def identifiers (r : SmartEditMaterialWritebackRequest) : List (List Char) :=
  r.analyses.map (·.materialId) ++ r.narrations.map (·.materialId)

def digests (r : SmartEditMaterialWritebackRequest) : List (List Char) :=
  r.analyses.map (·.contentDigest) ++ r.narrations.map (·.contentDigest)

/-- mirrors control_plane.rs:5294-5325 -/
def validate (r : SmartEditMaterialWritebackRequest) : Bool :=
  r.analyses.length ≤ 32 ∧ r.narrations.length ≤ 32 ∧ ¬(r.analyses = [] ∧ r.narrations = []) ∧
    r.analyses.all (·.validate) ∧ r.narrations.all (·.validate) ∧ r.identifiers.Nodup ∧
    r.digests.Nodup

end SmartEditMaterialWritebackRequest

local instance lawful : LawfulBEq (List Char) := inferInstance

/-- The components of a relative path are names: none is `..`, and the first is not `.`.
Empty components, and `.` behind another, are skipped. -/
def normalComponents (value : List Char) : Bool :=
  let components := value.splitOn '/'
  components.head? ≠ some ['.'] ∧ ['.', '.'] ∉ components

/-- mirrors local_video_orchestrator.rs:3628-3641 -/
def validSmartEditRelativePath (value : List Char) : Bool :=
  value ≠ [] ∧ byteLength value ≤ 512 ∧ '\\' ∉ value ∧
    value.any HostText.isControl = false ∧ value.head? ≠ some '/' ∧ normalComponents value

/-- The source window: both ends or neither, as long as the paragraph. -/
def VideoWorkerSmartEditParagraph.validSourceWindow (p : VideoWorkerSmartEditParagraph) : Bool :=
  match p.visualSourceInMs, p.visualSourceOutMs with
  | some sourceInMs, some sourceOutMs =>
    sourceInMs ≤ sourceOutMs ∧ sourceOutMs - sourceInMs = p.durationMs
  | none, none => true
  | _, _ => false

/-- One paragraph, at its place in the line. -/
def VideoWorkerSmartEditParagraph.validate (p : VideoWorkerSmartEditParagraph)
    (expectedSequence : Nat) : Bool :=
  p.sequence = expectedSequence ∧ canonicalUuidV4 p.visualMaterialId ∧
    canonicalUuidV4 p.audioMaterialId ∧ p.durationMs ≠ 0 ∧ p.validSourceWindow ∧
    p.captionText ≠ [] ∧ trimmed p.captionText ∧ p.captionText.length ≤ 2000 ∧
    (p.captionText.any fun c => HostText.isControl c && !(c = '\n' || c = '\t')) = false ∧
    (p.kind = .originalSpeech →
      p.audioMaterialId = p.visualMaterialId ∧ p.visualSourceInMs ≠ none)

/-- A narration file, against the paragraph that is to play it. -/
def VideoWorkerSmartEditNarrationRegistration.validate
    (registration : VideoWorkerSmartEditNarrationRegistration)
    (paragraph : VideoWorkerSmartEditParagraph) : Bool :=
  registration.sequence ≠ 0 ∧ registration.sequence = paragraph.sequence ∧
    registration.materialId = paragraph.audioMaterialId ∧
    registration.durationMs = paragraph.durationMs ∧ registration.bytesWritten ≠ 0 ∧
    registration.bytesWritten ≤ 512 * 1024 * 1024 ∧ sha256Pattern registration.contentDigest ∧
    validSmartEditRelativePath registration.relativePath

namespace VideoWorkerSmartEditResult

variable (r : VideoWorkerSmartEditResult)

/-- `SMART_EDIT_RESULT_SCHEMA`. -/
def schema : List Char := "smart-edit-generation-result.v1".toList

/-- The narration of a registration: the caption is that of the paragraph with its
sequence, the last one where there are several. -/
def narrationRequest (value : VideoWorkerSmartEditNarrationRegistration) :
    Option SmartEditNarrationMaterialRequest := do
  let paragraph ← r.draft.paragraphs.reverse.find? fun p => p.sequence = value.sequence
  return {
    materialId := value.materialId
    contentDigest := value.contentDigest
    durationMs := value.durationMs
    speechTranscript := paragraph.captionText }

/-- `none` is rejected, `some none` has nothing to write.
mirrors local_video_orchestrator.rs:639-672 -/
def writebackRequest : Option (Option SmartEditMaterialWritebackRequest) := do
  let narrations ← r.narrationRegistrations.mapM r.narrationRequest
  if r.analysisUpdates = [] ∧ narrations = [] then return none
  else return some ⟨r.analysisUpdates, narrations⟩

def narrated : List VideoWorkerSmartEditParagraph :=
  r.draft.paragraphs.filter fun p => p.kind = .narrated

/-- The durations add up to one that fits, so that no partial sum overflows.
mirrors local_video_orchestrator.rs:550-637 -/
def validate (expectedJobId : List Char) : Bool :=
  r.schemaVersion = schema ∧ r.jobId = expectedJobId ∧ r.analysisUpdates.length ≤ 32 ∧
    r.narrationRegistrations.length ≤ 32 ∧ r.draft.paragraphs ≠ [] ∧
    r.draft.paragraphs.length ≤ 256 ∧
    (100 ≤ r.draft.durationMs ∧ r.draft.durationMs ≤ 4 * 60 * 60 * 1000) ∧
    (∀ p ∈ r.draft.paragraphs.zipIdx, p.1.validate (p.2 + 1)) ∧
    (r.draft.paragraphs.map (·.sequence)).Nodup ∧
    (r.draft.paragraphs.map (·.durationMs)).sum = r.draft.durationMs ∧
    r.narrated.length = r.narrationRegistrations.length ∧
    (∀ x ∈ r.narrationRegistrations.zip r.narrated, x.1.validate x.2) ∧
    (r.narrationRegistrations.map (·.materialId)).Nodup ∧
    (r.narrationRegistrations.map (·.contentDigest)).Nodup ∧
    r.writebackRequest.any fun request => request.all (·.validate)

end VideoWorkerSmartEditResult
end
end AutomationTool.Desktop
