import AutomationTool.Core.Hex
import AutomationTool.Core.Json
import AutomationTool.Editing.TimelineDraft
import AutomationTool.Editing.MaterialRepository

/-!
# What a smart edit generates

The worker divides the materials into those that speak for themselves and those a
narration is written for. `projectLocalEditingTimelineDraft` puts the paragraphs in one
line, the original speech first, and `generated` is the result the worker hands over,
with the narration files it made; `resultDocument` is how it is written for the host.

A paragraph of the draft has its place in the whole line, a narration its place among the
narrations.

* `project_eq_some`: which paragraphs a draft is made of.
* `generated_narrations`: the narrations of a result are those of its narrated paragraphs,
  one for one and in their order; their places differ by the number of original speeches.
-/
namespace AutomationTool.Executor.SmartEdit

open Protocol Editing

/-- mirrors local_editing.py:18-24 -/
def maxLocalEditingScriptSentences : Nat := 128
def maxLocalEditingTranscriptCharacters : Nat := 100000
def localEditingSemanticScoreThreshold : Nat := 60

/-- mirrors voiceover.py:59 -/
def maxVoiceoverBytes : Nat := 32 * 1024 * 1024

/-- `_valid_narration_path`: `voiceover/sentence-0001.wav`. -/
def validNarrationPath (value : List Char) (sequence : Nat) : Bool :=
  let digits := (value.drop 19).take 4
  value.take 19 = "voiceover/sentence-".toList ∧ digits.length = 4 ∧
    digits.all Char.isDigit ∧ value.drop 23 = ".wav".toList ∧
    Nat.ofDigitChars 10 digits 0 = sequence

/-! ## Narrations -/

/-- mirrors speech_paragraph_draft.py:250-275 -/
structure NarrationMaterialBinding where
  sequence : Nat
  narrationRelativePath : List Char
  materialId : Uuid
  durationMs : Nat
  sequence_pos : 1 ≤ sequence
  sequence_le : sequence ≤ maxLocalEditingScriptSentences
  path : validNarrationPath narrationRelativePath sequence = true
  canonical : isCanonicalMaterialId materialId = true
  duration_pos : 1 ≤ durationMs
  duration_le : durationMs ≤ maxLocalEditingMaterialDurationMs

/-- A narration file that is to be registered.
mirrors smart_edit_generation.py:163-210 -/
structure SmartEditNarrationRegistration where
  sequence : Nat
  materialId : Uuid
  relativePath : List Char
  durationMs : Nat
  contentDigest : List Char
  bytesWritten : Nat
  sequence_pos : 1 ≤ sequence
  sequence_le : sequence ≤ maxLocalEditingScriptSentences
  path : validNarrationPath relativePath sequence = true
  canonical : isCanonicalMaterialId materialId = true
  duration_pos : 1 ≤ durationMs
  duration_le : durationMs ≤ maxLocalEditingMaterialDurationMs
  digest : sha256Pattern contentDigest = true
  bytes_pos : 1 ≤ bytesWritten
  bytes_le : bytesWritten ≤ maxVoiceoverBytes

def SmartEditNarrationRegistration.binding (r : SmartEditNarrationRegistration) :
    NarrationMaterialBinding where
  sequence := r.sequence
  narrationRelativePath := r.relativePath
  materialId := r.materialId
  durationMs := r.durationMs
  sequence_pos := r.sequence_pos
  sequence_le := r.sequence_le
  path := r.path
  canonical := r.canonical
  duration_pos := r.duration_pos
  duration_le := r.duration_le

/-- mirrors smart_edit_generation.py:213-230 -/
structure PreparedSmartEditNarration where
  bindings : List NarrationMaterialBinding
  registrations : List SmartEditNarrationRegistration
  nonempty : bindings ≠ [] ∧ registrations ≠ []
  sequences : (registrations.map (·.sequence)).Nodup
  ids : (registrations.map (·.materialId)).Nodup
  bound : registrations.map (·.binding) = bindings

theorem bindings_eq (narration : Option PreparedSmartEditNarration) :
    narration.elim [] (·.bindings) = (narration.elim [] (·.registrations)).map (·.binding) := by
  cases narration with
  | none => rfl
  | some n => exact n.bound.symm

/-! ## Paragraphs -/

/-- mirrors segment_selection.py:103-131 -/
structure FittingMaterialSegment where
  materialId : Uuid
  score : Nat
  durationMs : Nat
  sourceInMs : Option Nat
  sourceOutMs : Option Nat
  canonical : isCanonicalMaterialId materialId = true
  score_ge : localEditingSemanticScoreThreshold ≤ score
  score_le : score ≤ 100
  duration_pos : 1 ≤ durationMs
  duration_le : durationMs ≤ maxLocalEditingTimelineDurationMs
  ends : sourceInMs.isNone = sourceOutMs.isNone
  window : ∀ sourceIn ∈ sourceInMs, ∀ sourceOut ∈ sourceOutMs,
    sourceOut ≤ maxLocalEditingMaterialDurationMs ∧ sourceOut = sourceIn + durationMs

/-- `_is_static_segment`. -/
def FittingMaterialSegment.isStatic (s : FittingMaterialSegment) : Bool :=
  s.sourceInMs = none ∧ s.sourceOutMs = none

section

variable [UnicodeData]

/-- One clip of source speech; picture, sound and caption start together.
mirrors speech_paragraph_draft.py:124-166 -/
structure OriginalSpeechParagraphDraft where
  materialId : Uuid
  sourceInMs : Nat
  sourceOutMs : Nat
  visualStartMs : Nat
  visualDurationMs : Nat
  ambientStartMs : Nat
  ambientDurationMs : Nat
  captionStartMs : Nat
  captionDurationMs : Nat
  captionText : List Char
  canonical : isCanonicalMaterialId materialId = true
  source_lt : sourceInMs < sourceOutMs
  source_le : sourceOutMs ≤ maxLocalEditingMaterialDurationMs
  starts : visualStartMs = 0 ∧ ambientStartMs = 0 ∧ captionStartMs = 0
  durations : visualDurationMs = sourceOutMs - sourceInMs ∧
    ambientDurationMs = sourceOutMs - sourceInMs ∧ captionDurationMs = sourceOutMs - sourceInMs
  caption : validateText maxLocalEditingTranscriptCharacters captionText = true

/-- One sentence, with its picture and its narration.
mirrors speech_paragraph_draft.py:298-319 -/
structure SelectedNarratedParagraphDraft where
  sequence : Nat
  captionText : List Char
  narrationRelativePath : List Char
  durationMs : Nat
  segment : FittingMaterialSegment
  sequence_pos : 1 ≤ sequence
  sequence_le : sequence ≤ maxLocalEditingScriptSentences
  caption : validateText maxLocalEditingTranscriptCharacters captionText = true
  path : validNarrationPath narrationRelativePath sequence = true
  duration_pos : 1 ≤ durationMs
  duration_le : durationMs ≤ maxLocalEditingMaterialDurationMs
  fits : segment.durationMs = durationMs

/-- mirrors speech_paragraph_draft.py:337-394 -/
structure ResolvedSpeechAwareParagraphDraft where
  originalSpeechParagraphs : List OriginalSpeechParagraphDraft
  narratedParagraphs : List SelectedNarratedParagraphDraft
  originals : (originalSpeechParagraphs.map (·.materialId)).Nodup
  length_le : originalSpeechParagraphs.length + narratedParagraphs.length ≤
    maxLocalEditingSemanticMaterials
  sequences : narratedParagraphs.map (·.sequence) = List.range' 1 narratedParagraphs.length
  segments : ((narratedParagraphs.filter fun p => !p.segment.isStatic).map
    (·.segment.materialId)).Nodup
  disjoint : ∀ n ∈ narratedParagraphs, ∀ o ∈ originalSpeechParagraphs,
    n.segment.materialId ≠ o.materialId
  nonempty : originalSpeechParagraphs ≠ [] ∨ narratedParagraphs ≠ []

/-! ## Analyses -/

/-- mirrors smart_edit_generation.py:94-137 -/
structure SmartEditMaterialAnalysis extends AnalysisFields where
  canonical : isCanonicalMaterialId materialId = true
  valid : toAnalysisFields.validation.Valid

/-- mirrors smart_edit_generation.py:270-300 -/
structure PreparedSmartEditMaterials where
  materials : List Material
  analysisUpdates : List SmartEditMaterialAnalysis
  nonempty : materials ≠ []
  length_le : materials.length ≤ maxLocalEditingSemanticMaterials
  materialIds : (materials.map (·.materialId)).Nodup
  analysisIds : (analysisUpdates.map (·.materialId)).Nodup
  known : ∀ u ∈ analysisUpdates, u.materialId ∈ materials.map (·.materialId)

theorem PreparedSmartEditMaterials.updates_le (p : PreparedSmartEditMaterials) :
    p.analysisUpdates.length ≤ 32 := by
  have hsub : p.analysisUpdates.map (·.materialId) ⊆ p.materials.map (·.materialId) := by
    intro id hid
    obtain ⟨u, hu, rfl⟩ := List.mem_map.1 hid
    exact p.known u hu
  have hle := (List.subperm_of_subset p.analysisIds hsub).length_le
  simp only [List.length_map] at hle
  exact hle.trans p.length_le

/-! ## The draft -/

instance (p : ParagraphFields) : Decidable p.Valid :=
  decidable_of_iff
    (1 ≤ p.sequence ∧ p.sequence ≤ maxLocalEditingSemanticMaterials ∧
      isCanonicalMaterialId p.visualMaterialId = true ∧
      isCanonicalMaterialId p.audioMaterialId = true ∧ 1 ≤ p.durationMs ∧
      p.durationMs ≤ maxLocalEditingTimelineDurationMs ∧
      validateText maxLocalEditingTimelineCaptionCharacters p.captionText = true ∧
      (p.kind = .originalSpeech →
        p.audioMaterialId = p.visualMaterialId ∧ p.visualSourceInMs ≠ none) ∧
      (p.kind = .narrated → p.audioMaterialId ≠ p.visualMaterialId) ∧ p.validWindow = true)
    ⟨fun ⟨a, b, c, d, e, f, g, h, i, j⟩ => ⟨a, b, c, d, e, f, g, h, i, j⟩,
      fun ⟨a, b, c, d, e, f, g, h, i, j⟩ => ⟨a, b, c, d, e, f, g, h, i, j⟩⟩

/-- `LocalEditingTimelineParagraph(...)`. -/
def makeParagraph (p : ParagraphFields) : Option Paragraph := if h : p.Valid then some ⟨p, h⟩ else none

theorem makeParagraph_eq_some {p : ParagraphFields} {paragraph : Paragraph}
    (h : makeParagraph p = some paragraph) : paragraph.toParagraphFields = p := by
  unfold makeParagraph at h
  split at h <;> cases h
  rfl

/-- `LocalEditingTimelineDraft.__post_init__`. -/
def ValidDraft (paragraphs : List Paragraph) : Prop :=
  1 ≤ paragraphs.length ∧ paragraphs.length ≤ maxLocalEditingSemanticMaterials ∧
    paragraphs.map (·.sequence) = List.range' 1 paragraphs.length ∧
    (∀ m ∈ paragraphs.map (·.visualMaterialId),
      1 < paragraphs.countP (fun p => p.visualMaterialId = m) →
        ∀ p ∈ paragraphs, p.visualMaterialId = m → p.visualSourceInMs = none) ∧
    ((paragraphs.filter (·.kind = .narrated)).map (·.audioMaterialId)).Nodup ∧
    (∀ p ∈ paragraphs, p.kind = .narrated →
      p.audioMaterialId ∉ paragraphs.map (·.visualMaterialId)) ∧
    minLocalEditingTimelineDurationMs ≤ (paragraphs.map (·.durationMs)).sum ∧
    (paragraphs.map (·.durationMs)).sum ≤ maxLocalEditingTimelineDurationMs

instance (paragraphs : List Paragraph) : Decidable (ValidDraft paragraphs) := by
  unfold ValidDraft
  infer_instance

/-- `LocalEditingTimelineDraft(...)`. -/
def makeDraft (paragraphs : List Paragraph) : Option LocalEditingTimelineDraft :=
  if h : ValidDraft paragraphs then
    some ⟨paragraphs, h.1, h.2.1, h.2.2.1, h.2.2.2.1, h.2.2.2.2.1, h.2.2.2.2.2.1, h.2.2.2.2.2.2.1,
      h.2.2.2.2.2.2.2⟩
  else none

theorem makeDraft_eq_some {paragraphs : List Paragraph} {draft : LocalEditingTimelineDraft}
    (h : makeDraft paragraphs = some draft) : draft.paragraphs = paragraphs := by
  unfold makeDraft at h
  split at h <;> cases h
  rfl

/-- The paragraph of a clip of source speech, at its place in the line. -/
def originalFields (sequence : Nat) (p : OriginalSpeechParagraphDraft) : ParagraphFields where
  sequence := sequence
  kind := .originalSpeech
  visualMaterialId := p.materialId
  audioMaterialId := p.materialId
  durationMs := p.visualDurationMs
  visualSourceInMs := some p.sourceInMs
  visualSourceOutMs := some p.sourceOutMs
  captionText := p.captionText

/-- The paragraph of a narrated sentence. -/
def narratedFields (sequence : Nat) (p : SelectedNarratedParagraphDraft)
    (binding : NarrationMaterialBinding) : ParagraphFields where
  sequence := sequence
  kind := .narrated
  visualMaterialId := p.segment.materialId
  audioMaterialId := binding.materialId
  durationMs := p.durationMs
  visualSourceInMs := p.segment.sourceInMs
  visualSourceOutMs := p.segment.sourceOutMs
  captionText := p.captionText

/-- `zip(narrated, bindings)`, the sequences counted on from `first`. -/
def narratedLine (first : Nat) :
    List SelectedNarratedParagraphDraft → List NarrationMaterialBinding → List ParagraphFields
  | p :: ps, b :: bs => narratedFields first p b :: narratedLine (first + 1) ps bs
  | _, _ => []

def originalLine (first : Nat) : List OriginalSpeechParagraphDraft → List ParagraphFields
  | [] => []
  | p :: ps => originalFields first p :: originalLine (first + 1) ps

/-- mirrors speech_paragraph_draft.py:616-683 -/
def projectLocalEditingTimelineDraft (resolved : ResolvedSpeechAwareParagraphDraft)
    (narrationMaterials : List NarrationMaterialBinding) : Option LocalEditingTimelineDraft :=
  let originals := resolved.originalSpeechParagraphs
  let narrated := resolved.narratedParagraphs
  if narrationMaterials.map (·.sequence) = List.range' 1 narrated.length ∧
      ∀ x ∈ narrationMaterials.zip narrated,
        x.1.narrationRelativePath = x.2.narrationRelativePath ∧ x.1.durationMs = x.2.durationMs then
    do
      let paragraphs ← (originalLine 1 originals ++
        narratedLine (originals.length + 1) narrated narrationMaterials).mapM makeParagraph
      makeDraft paragraphs
  else none

theorem mapM_makeParagraph {fields : List ParagraphFields} {paragraphs : List Paragraph}
    (h : fields.mapM makeParagraph = some paragraphs) :
    paragraphs.map (·.toParagraphFields) = fields := by
  have hall := mapM_eq_some.1 h
  induction hall with
  | nil => rfl
  | cons hp hrest ih =>
    rw [List.map_cons, makeParagraph_eq_some hp, ih (mapM_eq_some.2 hrest)]

theorem project_eq_some {resolved : ResolvedSpeechAwareParagraphDraft}
    {bindings : List NarrationMaterialBinding} {draft : LocalEditingTimelineDraft}
    (h : projectLocalEditingTimelineDraft resolved bindings = some draft) :
    bindings.map (·.sequence) = List.range' 1 resolved.narratedParagraphs.length ∧
      (∀ x ∈ bindings.zip resolved.narratedParagraphs,
        x.1.narrationRelativePath = x.2.narrationRelativePath ∧ x.1.durationMs = x.2.durationMs) ∧
      draft.paragraphs.map (·.toParagraphFields) =
        originalLine 1 resolved.originalSpeechParagraphs ++
          narratedLine (resolved.originalSpeechParagraphs.length + 1) resolved.narratedParagraphs
            bindings := by
  simp only [projectLocalEditingTimelineDraft] at h
  split at h
  · rename_i hbound
    obtain ⟨paragraphs, hparagraphs, hdraft⟩ := Option.bind_eq_some_iff.1 h
    rw [makeDraft_eq_some hdraft]
    exact ⟨hbound.1, hbound.2, mapM_makeParagraph hparagraphs⟩
  · cases h

/-! ### Which of them are narrated -/

theorem filter_originalLine (first : Nat) (ps : List OriginalSpeechParagraphDraft) :
    (originalLine first ps).filter (·.kind = .narrated) = [] := by
  induction ps generalizing first with
  | nil => rfl
  | cons p ps ih => simp [originalLine, originalFields, ih]

theorem filter_narratedLine (first : Nat) (ps : List SelectedNarratedParagraphDraft)
    (bs : List NarrationMaterialBinding) :
    (narratedLine first ps bs).filter (·.kind = .narrated) = narratedLine first ps bs := by
  induction ps generalizing first bs with
  | nil => rfl
  | cons p ps ih =>
    cases bs with
    | nil => rfl
    | cons b bs => simp [narratedLine, narratedFields, ih]

/-- A narration and the paragraph it is for: their places are `shift` apart. -/
structure Narrates (shift : Nat) (b : NarrationMaterialBinding) (f : ParagraphFields) : Prop where
  material : b.materialId = f.audioMaterialId
  duration : b.durationMs = f.durationMs
  sequence : f.sequence = shift + b.sequence

theorem narratedLine_narrates (shift : Nat) {place : Nat} {ps : List SelectedNarratedParagraphDraft}
    {bs : List NarrationMaterialBinding} (hseq : bs.map (·.sequence) = List.range' place ps.length)
    (hbound : ∀ x ∈ bs.zip ps, x.1.durationMs = x.2.durationMs) :
    List.Forall₂ (Narrates shift) bs (narratedLine (shift + place) ps bs) := by
  induction ps generalizing place bs with
  | nil =>
    cases bs with
    | nil => exact .nil
    | cons b bs => cases hseq
  | cons p ps ih =>
    cases bs with
    | nil => cases hseq
    | cons b bs =>
      simp only [List.map_cons, List.length_cons, List.range'_succ, List.cons.injEq] at hseq
      obtain ⟨hplace, hrest⟩ := hseq
      have htail := ih hrest fun x hx => hbound x (List.mem_cons_of_mem _ hx)
      have hduration : b.durationMs = p.durationMs := hbound (b, p) List.mem_cons_self
      refine .cons ⟨rfl, hduration, ?_⟩ htail
      show shift + place = shift + b.sequence
      rw [hplace]

/-! ## The result -/

/-- mirrors smart_edit_generation.py:233-265 -/
structure SmartEditGenerationResult where
  draft : LocalEditingTimelineDraft
  analysisUpdates : List SmartEditMaterialAnalysis
  narrationRegistrations : List SmartEditNarrationRegistration
  analysisIds : (analysisUpdates.map (·.materialId)).Nodup
  sequences : (narrationRegistrations.map (·.sequence)).Nodup
  ids : (narrationRegistrations.map (·.materialId)).Nodup
  narrated : narrationRegistrations ≠ [] →
    narrationRegistrations.map (·.materialId) =
      (draft.paragraphs.filter (·.kind = .narrated)).map (·.audioMaterialId)

/-- The last steps of `generate_smart_edit_timeline_draft`; there is no narration when
every material speaks.
mirrors smart_edit_generation.py:444-470 -/
def generated (selected : ResolvedSpeechAwareParagraphDraft)
    (narration : Option PreparedSmartEditNarration) (prepared : PreparedSmartEditMaterials) :
    Option SmartEditGenerationResult := do
  let registrations := narration.elim [] (·.registrations)
  let draft ← projectLocalEditingTimelineDraft selected (narration.elim [] (·.bindings))
  if h : (registrations.map (·.sequence)).Nodup ∧ (registrations.map (·.materialId)).Nodup ∧
      (registrations ≠ [] → registrations.map (·.materialId) =
        (draft.paragraphs.filter (·.kind = .narrated)).map (·.audioMaterialId)) then
    some ⟨draft, prepared.analysisUpdates, registrations, prepared.analysisIds, h.1, h.2.1, h.2.2⟩
  else none

theorem generated_eq_some {selected : ResolvedSpeechAwareParagraphDraft}
    {narration : Option PreparedSmartEditNarration} {prepared : PreparedSmartEditMaterials}
    {result : SmartEditGenerationResult} (h : generated selected narration prepared = some result) :
    projectLocalEditingTimelineDraft selected (narration.elim [] (·.bindings)) = some result.draft ∧
      result.analysisUpdates = prepared.analysisUpdates ∧
      result.narrationRegistrations = narration.elim [] (·.registrations) := by
  unfold generated at h
  obtain ⟨draft, hdraft, h⟩ := Option.bind_eq_some_iff.1 h
  split at h
  · cases h
    exact ⟨hdraft, rfl, rfl⟩
  · cases h

/-- The narrations of a result are those of its narrated paragraphs. -/
theorem generated_narrations {selected : ResolvedSpeechAwareParagraphDraft}
    {narration : Option PreparedSmartEditNarration} {prepared : PreparedSmartEditMaterials}
    {result : SmartEditGenerationResult} (h : generated selected narration prepared = some result) :
    List.Forall₂ (fun r p => Narrates selected.originalSpeechParagraphs.length
        (SmartEditNarrationRegistration.binding r) p.toParagraphFields)
      result.narrationRegistrations (result.draft.paragraphs.filter (·.kind = .narrated)) := by
  obtain ⟨hproject, -, hregistrations⟩ := generated_eq_some h
  obtain ⟨hseq, hbound, hline⟩ := project_eq_some hproject
  have hnarrates := narratedLine_narrates selected.originalSpeechParagraphs.length hseq
    fun x hx => (hbound x hx).2
  have hfilter : (result.draft.paragraphs.filter (·.kind = .narrated)).map
      (·.toParagraphFields) = narratedLine (selected.originalSpeechParagraphs.length + 1)
        selected.narratedParagraphs (narration.elim [] (·.bindings)) := by
    have hmap := congrArg (List.filter fun f : ParagraphFields => f.kind = .narrated) hline
    rw [List.filter_map, List.filter_append, filter_originalLine, filter_narratedLine,
      List.nil_append] at hmap
    exact hmap
  rw [← hfilter, bindings_eq, ← hregistrations, List.forall₂_map_left_iff,
    List.forall₂_map_right_iff] at hnarrates
  exact hnarrates

/-! ## The document -/

/-- `datetime.isoformat` of a time in UTC, without its offset. -/
class IsoText where
  isoformat : Time → List Char

variable [IsoText]

def ParagraphKind.value : ParagraphKind → List Char
  | .originalSpeech => "original_speech".toList
  | .narrated => "narrated".toList

def DescriptionSource.value : DescriptionSource → List Char
  | .ai => "ai".toList
  | .user => "user".toList

/-- `_analysis`. -/
def analysisDocument (update : SmartEditMaterialAnalysis) : Json :=
  .obj [("aiDescription", .ofOption .str update.aiDescription),
    ("aiTags", .arr (update.aiTags.map .str)),
    ("contentDigest", .str update.contentDigest),
    ("describedAt", .ofOption (fun t => .str (IsoText.isoformat t ++ ['Z'])) update.describedAt),
    ("descriptionSource", .str (DescriptionSource.value update.descriptionSource)),
    ("hasSpeech", .bool update.hasSpeech),
    ("materialId", .str (Hex.hyphenated update.materialId)),
    ("shotBoundariesMs", .arr (update.shotBoundariesMs.map .ofNat)),
    ("speechSegmentsMs",
      .arr (update.speechSegmentsMs.map fun s => .arr [.ofNat s.1, .ofNat s.2])),
    ("speechTranscript", .ofOption .str update.speechTranscript)]

/-- `_narration`. -/
def narrationDocument (value : SmartEditNarrationRegistration) : Json :=
  .obj [("bytesWritten", .ofNat value.bytesWritten),
    ("contentDigest", .str value.contentDigest),
    ("durationMs", .ofNat value.durationMs),
    ("materialId", .str (Hex.hyphenated value.materialId)),
    ("relativePath", .str value.relativePath),
    ("sequence", .ofNat value.sequence)]

def paragraphDocument (paragraph : Paragraph) : Json :=
  .obj [("audioMaterialId", .str (Hex.hyphenated paragraph.audioMaterialId)),
    ("captionText", .str paragraph.captionText),
    ("durationMs", .ofNat paragraph.durationMs),
    ("kind", .str (ParagraphKind.value paragraph.kind)),
    ("sequence", .ofNat paragraph.sequence),
    ("visualMaterialId", .str (Hex.hyphenated paragraph.visualMaterialId)),
    ("visualSourceInMs", .ofOption .ofNat paragraph.visualSourceInMs),
    ("visualSourceOutMs", .ofOption .ofNat paragraph.visualSourceOutMs)]

def draftDocument (draft : LocalEditingTimelineDraft) : Json :=
  .obj [("durationMs", .ofNat draft.durationMs),
    ("paragraphs", .arr (draft.paragraphs.map paragraphDocument))]

/-- `_RESULT_SCHEMA`. -/
def resultSchema : List Char := "smart-edit-generation-result.v1".toList

/-- `_result_document`.
mirrors smart_edit_worker_process.py:276-328 -/
def resultDocument (jobId : Uuid) (result : SmartEditGenerationResult) : Json :=
  .obj [("analysisUpdates", .arr (result.analysisUpdates.map analysisDocument)),
    ("draft", draftDocument result.draft),
    ("jobId", .str (Hex.hyphenated jobId)),
    ("narrationRegistrations", .arr (result.narrationRegistrations.map narrationDocument)),
    ("schemaVersion", .str resultSchema)]

end
end AutomationTool.Executor.SmartEdit
