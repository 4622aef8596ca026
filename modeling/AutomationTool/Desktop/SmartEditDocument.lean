import AutomationTool.Desktop.SmartEditResult
import AutomationTool.Executor.SmartEditGeneration

/-!
# What the host reads of a smart edit

The worker writes a document of its result, the host reads it. No number of a result is
too large for the host's types and every member has the name the host looks for, so that
`readResult` says in the host's terms what it reads.

* `ofJson_result`: the host reads every document.
* `analysis_validate`, `narration_validate`: the pieces of a document pass the host's checks,
  as far as the libraries of the two sides `Agree` on texts and times.
-/
namespace AutomationTool.Desktop

open Editing Executor.SmartEdit Protocol

/-! ## Identifiers -/

theorem canonical_lt {u : Uuid} (h : isCanonicalMaterialId u = true) : u < 2 ^ 128 := by
  have hversion : Uuid.version u = some 4 := of_decide_eq_true h
  unfold Uuid.version at hversion
  split at hversion
  · rename_i hu
    exact hu.1
  · cases hversion

theorem canonical_hyphenated {u : Uuid} (h : isCanonicalMaterialId u = true) :
    canonicalUuidV4 (Hex.hyphenated u) = true := by
  have hversion : Uuid.version u = some 4 := of_decide_eq_true h
  simp [canonicalUuidV4, Hex.ofHyphenated_hyphenated (canonical_lt h), hversion]

theorem hyphenated_inj {u v : Uuid} (hu : isCanonicalMaterialId u = true)
    (hv : isCanonicalMaterialId v = true) : Hex.hyphenated u = Hex.hyphenated v ↔ u = v :=
  ⟨Hex.hyphenated_injective (canonical_lt hu) (canonical_lt hv), congrArg _⟩

/-! ## What lists of an analysis keep to -/

theorem le_foldr_max {n : Nat} {ns : List Nat} (h : n ∈ ns) : n ≤ ns.foldr max 0 := by
  induction ns with
  | nil => exact absurd h List.not_mem_nil
  | cons m ns ih =>
    rw [List.foldr_cons]
    rcases List.mem_cons.1 h with rfl | h
    · exact Nat.le_max_left _ _
    · exact (ih h).trans (Nat.le_max_right _ _)

theorem segments_ordered {durationMs : Option Nat} {previousEnd : Nat} {segments : List (Nat × Nat)}
    (h : validateSegments durationMs previousEnd segments = true) :
    (∀ s ∈ segments, s.1 < s.2) ∧ (∀ s ∈ segments.head?, previousEnd ≤ s.1) ∧
      ∀ w ∈ segments.zip segments.tail, w.1.2 ≤ w.2.1 := by
  induction segments generalizing previousEnd with
  | nil => simp
  | cons s segments ih =>
    simp only [validateSegments, decide_eq_true_eq] at h
    obtain ⟨hprev, hlt, -, hrest⟩ := h
    obtain ⟨hall, hhead, hpairs⟩ := ih hrest
    refine ⟨?_, ?_, ?_⟩
    · intro x hx
      rcases List.mem_cons.1 hx with rfl | hx
      · exact hlt
      · exact hall x hx
    · intro x hx
      cases hx
      exact hprev
    · intro w hw
      cases segments with
      | nil => simp at hw
      | cons t segments =>
        rcases List.mem_cons.1 hw with rfl | hw
        · exact hhead t rfl
        · exact hpairs w hw

theorem boundaries_ordered {durationMs : Nat} {previous : Option Nat} {boundaries : List Nat}
    (h : validateBoundaries durationMs previous boundaries = true) :
    (∀ p ∈ previous, ∀ b ∈ boundaries.head?, p < b) ∧
      ∀ w ∈ boundaries.zip boundaries.tail, w.1 < w.2 := by
  induction boundaries generalizing previous with
  | nil => simp
  | cons b boundaries ih =>
    simp only [validateBoundaries, decide_eq_true_eq, Option.all_eq_true] at h
    obtain ⟨hprev, -, hrest⟩ := h
    obtain ⟨hhead, hpairs⟩ := ih hrest
    refine ⟨?_, ?_⟩
    · intro p hp x hx
      cases hx
      exact hprev p hp
    · intro w hw
      cases boundaries with
      | nil => simp at hw
      | cons c boundaries =>
        rcases List.mem_cons.1 hw with rfl | hw
        · exact hhead b rfl c rfl
        · exact hpairs w hw

/-! ## Narration paths -/

/-- What a narration path is written with. -/
def Plain (c : Char) : Prop := ' ' ≤ c ∧ c ≤ '~' ∧ c ≠ '\\' ∧ c.utf8Size = 1

instance (c : Char) : Decidable (Plain c) := by
  unfold Plain
  infer_instance

theorem plain_digit {c : Char} (h : c.isDigit = true) : Plain c ∧ c ≠ '/' := by
  simp only [Char.isDigit, Bool.and_eq_true, decide_eq_true_eq] at h
  obtain ⟨h0, h9⟩ := h
  have h0 : (48 : UInt32) ≤ c.val := h0
  have h9 : c.val ≤ (57 : UInt32) := h9
  refine ⟨⟨UInt32.le_trans (by decide) h0, UInt32.le_trans h9 (by decide), ?_, ?_⟩, ?_⟩
  · rintro rfl
    revert h9
    decide
  · have hsmall : c.val ≤ (0x7F : UInt32) := UInt32.le_trans h9 (by decide)
    simp [Char.utf8Size, hsmall]
  · rintro rfl
    revert h0
    decide

theorem byteLength_plain {value : List Char} (h : ∀ c ∈ value, Plain c) :
    byteLength value = value.length := by
  have hmap : value.map Char.utf8Size = value.map fun _ => 1 :=
    List.map_congr_left fun c hc => (h c hc).2.2.2
  rw [byteLength, hmap, List.map_const', List.sum_replicate_nat, Nat.mul_one]

theorem narrationPath_eq {value : List Char} {sequence : Nat}
    (h : validNarrationPath value sequence = true) :
    ∃ number : List Char, number.length = 4 ∧ (∀ c ∈ number, c.isDigit = true) ∧
      value = "voiceover".toList ++ '/' :: ("sentence-".toList ++ number ++ ".wav".toList) := by
  obtain ⟨hhead, hlen, hdigits, htail, -⟩ := of_decide_eq_true h
  refine ⟨(value.drop 19).take 4, hlen, List.all_eq_true.1 hdigits, ?_⟩
  calc value = value.take 19 ++ ((value.drop 19).take 4 ++ value.drop 23) := by
        rw [show value.drop 23 = (value.drop 19).drop 4 by rw [List.drop_drop],
          List.take_append_drop, List.take_append_drop]
    _ = _ := by rw [hhead, htail]; rfl

theorem splitOn_narrationPath {number : List Char} (h : ∀ c ∈ number, c.isDigit = true) :
    ("voiceover".toList ++ '/' :: ("sentence-".toList ++ number ++ ".wav".toList)).splitOn '/' =
      ["voiceover".toList, "sentence-".toList ++ number ++ ".wav".toList] := by
  have hnumber : '/' ∉ number := fun hmem => (plain_digit (h _ hmem)).2 rfl
  have hsecond : '/' ∉ "sentence-".toList ++ number ++ ".wav".toList := by
    simp [hnumber]
  rw [List.splitOn_append_cons_self_of_not_mem (by decide), List.splitOn_eq_singleton hsecond]

/-! ## Narrations -/

def readNarration (n : SmartEditNarrationRegistration) :
    VideoWorkerSmartEditNarrationRegistration where
  bytesWritten := n.bytesWritten
  contentDigest := n.contentDigest
  durationMs := n.durationMs
  materialId := Hex.hyphenated n.materialId
  relativePath := n.relativePath
  sequence := n.sequence

theorem ofJson_narration (n : SmartEditNarrationRegistration) :
    VideoWorkerSmartEditNarrationRegistration.ofJson (narrationDocument n) =
      some (readNarration n) := by
  have hbytes : u64? (.ofNat n.bytesWritten) = some n.bytesWritten :=
    Json.nat?_ofNat (Nat.lt_of_le_of_lt n.bytes_le (by decide))
  have hduration : u64? (.ofNat n.durationMs) = some n.durationMs :=
    Json.nat?_ofNat (Nat.lt_of_le_of_lt n.duration_le (by decide))
  have hsequence : u32? (.ofNat n.sequence) = some n.sequence :=
    Json.nat?_ofNat (Nat.lt_of_le_of_lt n.sequence_le (by decide))
  have hfields : Json.fields ["bytesWritten", "contentDigest", "durationMs", "materialId",
    "relativePath", "sequence"] (narrationDocument n) = some _ := rfl
  unfold VideoWorkerSmartEditNarrationRegistration.ofJson
  rw [hfields]
  simp [Json.required, hbytes, hduration, hsequence, readNarration]

/-! ## Paragraphs -/

def readKind : ParagraphKind → VideoWorkerSmartEditParagraphKind
  | .originalSpeech => .originalSpeech
  | .narrated => .narrated

theorem ofJson_kind (k : ParagraphKind) :
    VideoWorkerSmartEditParagraphKind.ofJson (.str (ParagraphKind.value k)) = some (readKind k) := by
  cases k <;> rfl

theorem value_eq_user {s : DescriptionSource} :
    DescriptionSource.value s = "user".toList ↔ s = .user := by
  cases s <;> decide

theorem value_eq_ai {s : DescriptionSource} :
    DescriptionSource.value s = "ai".toList ↔ s = .ai := by
  cases s <;> decide

section

variable [UnicodeData]

def readParagraph (p : Paragraph) : VideoWorkerSmartEditParagraph where
  audioMaterialId := Hex.hyphenated p.audioMaterialId
  captionText := p.captionText
  durationMs := p.durationMs
  kind := readKind p.kind
  sequence := p.sequence
  visualMaterialId := Hex.hyphenated p.visualMaterialId
  visualSourceInMs := p.visualSourceInMs
  visualSourceOutMs := p.visualSourceOutMs

theorem source_le (p : Paragraph) :
    (∀ n ∈ p.visualSourceInMs, n ≤ maxLocalEditingMaterialDurationMs) ∧
      ∀ n ∈ p.visualSourceOutMs, n ≤ maxLocalEditingMaterialDurationMs := by
  have hwindow := p.valid.window
  unfold ParagraphFields.validWindow at hwindow
  cases hi : p.visualSourceInMs <;> cases ho : p.visualSourceOutMs <;>
    simp [hi, ho] at hwindow ⊢
  omega

theorem ofJson_paragraph (p : Paragraph) :
    VideoWorkerSmartEditParagraph.ofJson (paragraphDocument p) = some (readParagraph p) := by
  have hduration : u64? (.ofNat p.durationMs) = some p.durationMs :=
    Json.nat?_ofNat (Nat.lt_of_le_of_lt p.valid.duration_le (by decide))
  have hsequence : u32? (.ofNat p.sequence) = some p.sequence :=
    Json.nat?_ofNat (Nat.lt_of_le_of_lt p.valid.sequence_le (by decide))
  have hin : Json.option? u64? (.ofOption .ofNat p.visualSourceInMs) = some p.visualSourceInMs :=
    Json.option?_nat fun n hn => Nat.lt_of_le_of_lt ((source_le p).1 n hn) (by decide)
  have hout : Json.option? u64? (.ofOption .ofNat p.visualSourceOutMs) = some p.visualSourceOutMs :=
    Json.option?_nat fun n hn => Nat.lt_of_le_of_lt ((source_le p).2 n hn) (by decide)
  have hfields : Json.fields ["audioMaterialId", "captionText", "durationMs", "kind", "sequence",
    "visualMaterialId", "visualSourceInMs", "visualSourceOutMs"] (paragraphDocument p) = some _ := rfl
  unfold VideoWorkerSmartEditParagraph.ofJson
  rw [hfields]
  simp [Json.required, Json.optional, hduration, hsequence, hin, hout, ofJson_kind, readParagraph]

def readDraft (d : LocalEditingTimelineDraft) : VideoWorkerSmartEditDraft where
  durationMs := d.durationMs
  paragraphs := d.paragraphs.map readParagraph

theorem ofJson_draft (d : LocalEditingTimelineDraft) :
    VideoWorkerSmartEditDraft.ofJson (draftDocument d) = some (readDraft d) := by
  have hduration : u64? (.ofNat d.durationMs) = some d.durationMs :=
    Json.nat?_ofNat (Nat.lt_of_le_of_lt d.duration_le (by decide))
  have hparagraphs : Json.list? VideoWorkerSmartEditParagraph.ofJson
      (.arr (d.paragraphs.map paragraphDocument)) = some (d.paragraphs.map readParagraph) :=
    Json.list?_map fun p _ => ofJson_paragraph p
  have hfields : Json.fields ["durationMs", "paragraphs"] (draftDocument d) = some _ := rfl
  unfold VideoWorkerSmartEditDraft.ofJson
  rw [hfields]
  simp [Json.required, hduration, hparagraphs, readDraft]

/-- A character that the host forbids is a line break or a tab. -/
theorem layout_of_validateText {maximum : Nat} {value : List Char} {forbidden : Char → Bool}
    (hforbidden : ∀ c, forbidden c = true → UnicodeData.isOther c = true)
    (h : validateText maximum value = true) {c : Char} (hc : c ∈ value)
    (hbad : forbidden c = true) : c = '\n' ∨ c = '\t' := by
  have hall := List.all_eq_true.1 (of_decide_eq_true h).2.2.2.2 c hc
  rcases of_decide_eq_true hall with hc | hc | hc
  · exact .inl hc
  · exact .inr hc
  · rw [hforbidden c hbad] at hc
    cases hc

/-! ## Analyses -/

/-- The material that an analysis is checked with is as long as the analysis says at least. -/
theorem analysis_le (a : SmartEditMaterialAnalysis) :
    (a.speechSegmentsMs.map (·.2)).foldr max 0 ≤ maxMaterialDurationMs ∧
      a.shotBoundariesMs.foldr max 0 < maxMaterialDurationMs := by
  have hduration := a.valid.duration
  simp [ProbeValues.validateDuration, AnalysisFields.validation] at hduration
  omega

theorem analysis_segments (a : SmartEditMaterialAnalysis) :
    (∀ s ∈ a.speechSegmentsMs, s.1 < s.2) ∧
      ∀ w ∈ a.speechSegmentsMs.zip a.speechSegmentsMs.tail, w.1.2 ≤ w.2.1 := by
  have hspeech := a.valid.speech
  unfold SpeechAnalysisValues.validateSpeech at hspeech
  split at hspeech
  · have hnone : a.speechSegmentsMs = [] := (of_decide_eq_true hspeech).1
    simp [hnone]
  · have hordered := segments_ordered (of_decide_eq_true hspeech).2.2.2.2
    exact ⟨hordered.1, hordered.2.2⟩

theorem analysis_speech (a : SmartEditMaterialAnalysis) :
    a.speechSegmentsMs.length ≤ 4096 ∧
      a.hasSpeech = (decide (a.speechSegmentsMs ≠ []) && a.speechTranscript.isSome) ∧
      a.speechTranscript.all (validateText 100000) = true := by
  have hspeech := a.valid.speech
  unfold SpeechAnalysisValues.validateSpeech at hspeech
  split at hspeech
  · rename_i hnot
    obtain ⟨hsegments, htranscript⟩ := of_decide_eq_true hspeech
    have hsegments : a.speechSegmentsMs = [] := hsegments
    have htranscript : a.speechTranscript = none := htranscript
    have hnot : a.hasSpeech = false := hnot
    simp [hsegments, htranscript, hnot]
  · rename_i hhas
    obtain ⟨-, hpos, hle, htext, -⟩ := of_decide_eq_true hspeech
    have hpos : 1 ≤ a.speechSegmentsMs.length := hpos
    have hhas : a.hasSpeech = true := Bool.eq_true_of_not_eq_false hhas
    have hne : a.speechSegmentsMs ≠ [] := List.ne_nil_of_length_pos hpos
    obtain ⟨text, htext, hvalid⟩ := (Option.any_eq_true _ _).1 htext
    have htext : a.speechTranscript = some text := htext
    have hvalid : validateText 100000 text = true := hvalid
    refine ⟨hle, ?_, ?_⟩
    · simp [hhas, hne, htext]
    · simp [htext, hvalid]

theorem analysis_shots (a : SmartEditMaterialAnalysis) :
    a.shotBoundariesMs.length ≤ 4096 ∧
      ∀ w ∈ a.shotBoundariesMs.zip a.shotBoundariesMs.tail, w.1 < w.2 := by
  have hshots := a.valid.shots
  unfold validateShotBoundaries at hshots
  split at hshots
  · rename_i hnone
    have hnone : a.shotBoundariesMs = [] := hnone
    simp [hnone]
  · obtain ⟨-, hle, hordered⟩ := of_decide_eq_true hshots
    obtain ⟨d, -, hordered⟩ := (Option.any_eq_true _ _).1 hordered
    exact ⟨hle, (boundaries_ordered hordered).2⟩

theorem analysis_description (a : SmartEditMaterialAnalysis) :
    (a.descriptionSource = .user →
        a.aiDescription ≠ none ∧ a.aiTags = [] ∧ a.describedAt = none) ∧
      (a.descriptionSource = .ai →
        a.aiDescription.isSome = a.describedAt.isSome ∧ (a.aiDescription = none → a.aiTags = [])) := by
  obtain ⟨-, -, -, -, hnone, hai, huser⟩ := of_decide_eq_true a.valid.description
  have hnone : a.aiDescription = none → a.aiTags = [] ∧ a.describedAt = none := hnone
  have hai : a.descriptionSource = .ai → a.aiDescription ≠ none → a.describedAt ≠ none := hai
  have huser : a.descriptionSource = .user →
    a.describedAt = none ∧ a.aiDescription ≠ none ∧ a.aiTags = [] := huser
  refine ⟨fun h => ⟨(huser h).2.1, (huser h).2.2, (huser h).1⟩,
    fun h => ⟨?_, fun hd => (hnone hd).1⟩⟩
  cases hd : a.aiDescription with
  | none => simp [(hnone hd).2]
  | some text =>
    have hat : a.describedAt ≠ none := hai h (by simp [hd])
    exact (Option.isSome_iff_ne_none.2 hat).symm

section

variable [IsoText]

def readAnalysis (a : SmartEditMaterialAnalysis) : SmartEditMaterialAnalysisRequest where
  materialId := Hex.hyphenated a.materialId
  contentDigest := a.contentDigest
  hasSpeech := a.hasSpeech
  speechSegmentsMs := a.speechSegmentsMs
  speechTranscript := a.speechTranscript
  shotBoundariesMs := a.shotBoundariesMs
  aiDescription := a.aiDescription
  aiTags := a.aiTags
  descriptionSource := DescriptionSource.value a.descriptionSource
  describedAt := a.describedAt.map fun t => IsoText.isoformat t ++ ['Z']

theorem ofJson_analysis (a : SmartEditMaterialAnalysis) :
    SmartEditMaterialAnalysisRequest.ofJson (analysisDocument a) = some (readAnalysis a) := by
  have hsegment (s : Nat × Nat) (hs : s ∈ a.speechSegmentsMs) :
      segment? (.arr [.ofNat s.1, .ofNat s.2]) = some s := by
    have hstop : s.2 ≤ maxMaterialDurationMs :=
      (le_foldr_max (List.mem_map_of_mem hs)).trans (analysis_le a).1
    have hstart : s.1 < s.2 := (analysis_segments a).1 s hs
    have h1 : u64? (.ofNat s.1) = some s.1 :=
      Json.nat?_ofNat (Nat.lt_of_le_of_lt (hstart.le.trans hstop) (by decide))
    have h2 : u64? (.ofNat s.2) = some s.2 :=
      Json.nat?_ofNat (Nat.lt_of_le_of_lt hstop (by decide))
    simp [segment?, h1, h2]
  have hsegments : Json.list? segment?
      (.arr (a.speechSegmentsMs.map fun s => .arr [.ofNat s.1, .ofNat s.2])) =
        some a.speechSegmentsMs :=
    Json.list?_map_self hsegment
  have hboundaries : Json.list? u64? (.arr (a.shotBoundariesMs.map .ofNat)) =
      some a.shotBoundariesMs :=
    Json.list?_map_self fun b hb => Json.nat?_ofNat <|
      Nat.lt_of_le_of_lt ((le_foldr_max hb).trans (analysis_le a).2.le) (by decide)
  have htags : Json.list? Json.str? (.arr (a.aiTags.map .str)) = some a.aiTags :=
    Json.list?_map_self fun _ _ => rfl
  have htime : Json.option? Json.str?
      (.ofOption (fun t => .str (IsoText.isoformat t ++ ['Z'])) a.describedAt) =
        some (a.describedAt.map fun t => IsoText.isoformat t ++ ['Z']) := by
    cases a.describedAt <;> rfl
  have hfields : Json.fields ["materialId", "contentDigest", "hasSpeech", "speechSegmentsMs",
    "speechTranscript", "shotBoundariesMs", "aiDescription", "aiTags", "descriptionSource",
    "describedAt"] (analysisDocument a) = some _ := rfl
  unfold SmartEditMaterialAnalysisRequest.ofJson
  rw [hfields]
  simp [Json.required, Json.optional, hsegments, hboundaries, htags, htime, readAnalysis]

/-! ## The result -/

def readResult (jobId : Uuid) (r : SmartEditGenerationResult) : VideoWorkerSmartEditResult where
  analysisUpdates := r.analysisUpdates.map readAnalysis
  draft := readDraft r.draft
  jobId := Hex.hyphenated jobId
  narrationRegistrations := r.narrationRegistrations.map readNarration
  schemaVersion := resultSchema

/-- The host reads every document. -/
theorem ofJson_result (jobId : Uuid) (r : SmartEditGenerationResult) :
    VideoWorkerSmartEditResult.ofJson (resultDocument jobId r) = some (readResult jobId r) := by
  have hanalyses : Json.list? SmartEditMaterialAnalysisRequest.ofJson
      (.arr (r.analysisUpdates.map analysisDocument)) =
        some (r.analysisUpdates.map readAnalysis) :=
    Json.list?_map fun a _ => ofJson_analysis a
  have hnarrations : Json.list? VideoWorkerSmartEditNarrationRegistration.ofJson
      (.arr (r.narrationRegistrations.map narrationDocument)) =
        some (r.narrationRegistrations.map readNarration) :=
    Json.list?_map fun n _ => ofJson_narration n
  have hfields : Json.fields ["analysisUpdates", "draft", "jobId", "narrationRegistrations",
    "schemaVersion"] (resultDocument jobId r) = some _ := rfl
  unfold VideoWorkerSmartEditResult.ofJson
  rw [hfields]
  simp [Json.required, hanalyses, ofJson_draft, hnarrations, readResult]

/-! ## Texts and times -/

/-- What the libraries of the two sides say of characters and times fits together: what the
host trims or forbids, the worker does, and the host reads the worker's times. -/
structure Agree [HostText] : Prop where
  whitespace : ∀ c, HostText.isWhitespace c = true → UnicodeData.isSpace c = true
  control : ∀ c, HostText.isControl c = true → UnicodeData.isOther c = true
  other : ∀ c, HostText.isOther c = true → UnicodeData.isOther c = true
  printable : ∀ c, ' ' ≤ c → c ≤ '~' → HostText.isControl c = false
  time : ∀ t, boundedTimestamp (IsoText.isoformat t ++ ['Z']) = true

variable [HostText]

theorem Agree.trimmed (agree : Agree) {maximum : Nat} {value : List Char}
    (h : validateText maximum value = true) : trimmed value = true := by
  obtain ⟨-, hhead, hlast, -, -⟩ := of_decide_eq_true h
  have hnone {x : Option Char} (hx : x.any UnicodeData.isSpace = false) :
      x.any HostText.isWhitespace = false := by
    cases x with
    | none => rfl
    | some c =>
      by_contra hc
      have := agree.whitespace c (by simpa using hc)
      simp [this] at hx
  unfold Desktop.trimmed
  simp [hnone hhead, hnone hlast]

theorem Agree.validText (agree : Agree) {maximum : Nat} {value : List Char}
    (h : validateText maximum value = true) : validText maximum value = true := by
  obtain ⟨hne, -, -, hlen, -⟩ := of_decide_eq_true h
  have hclean : editingTextHasForbiddenCharacter value true = false := by
    rw [editingTextHasForbiddenCharacter, List.any_eq_false]
    intro c hc hbad
    have hother : HostText.isOther c = true := (Bool.and_eq_true_iff.1 hbad).1
    rcases layout_of_validateText agree.other h hc hother with rfl | rfl <;> simp at hbad
  exact decide_eq_true ⟨hne, agree.trimmed h, hlen, hclean⟩

theorem Agree.all_validText (agree : Agree) {maximum : Nat} {value : Option (List Char)}
    (h : value.all (validateText maximum) = true) : value.all (Desktop.validText maximum) = true := by
  rw [Option.all_eq_true] at h ⊢
  exact fun text htext => agree.validText (h text htext)

/-! ## Pieces that pass -/

theorem analysis_validate (agree : Agree) (a : SmartEditMaterialAnalysis) :
    (readAnalysis a).validate = true := by
  obtain ⟨hcount, hspeech, htranscript⟩ := analysis_speech a
  obtain ⟨hshots, hincreasing⟩ := analysis_shots a
  obtain ⟨htext, hlen, htags, hdistinct, -⟩ := of_decide_eq_true a.valid.description
  obtain ⟨huser, hai⟩ := analysis_description a
  have hsource : DescriptionSource.value a.descriptionSource = "ai".toList ∨
      DescriptionSource.value a.descriptionSource = "user".toList := by
    cases a.descriptionSource
    · exact .inl rfl
    · exact .inr rfl
  have htime : (a.describedAt.map fun t => IsoText.isoformat t ++ ['Z']).all boundedTimestamp =
      true := by
    cases a.describedAt <;> simp [agree.time]
  have htranscript : a.speechTranscript.all (Desktop.validText 100000) = true :=
    agree.all_validText htranscript
  have htext : a.aiDescription.all (Desktop.validText 2000) = true := agree.all_validText htext
  have htags : a.aiTags.all (Desktop.validText 32) = true :=
    List.all_eq_true.2 fun tag htag => agree.validText (List.all_eq_true.1 htags tag htag)
  have hid := canonical_hyphenated a.canonical
  unfold SmartEditMaterialAnalysisRequest.validate
  rw [decide_eq_true_eq]
  dsimp only [readAnalysis]
  refine ⟨hid, a.valid.digest, hcount, hshots, (analysis_segments a).1, (analysis_segments a).2,
    hincreasing, hspeech, htranscript, htext, hlen, htags, hdistinct, hsource, htime, ?_, ?_⟩
  · intro h
    have huser := huser (value_eq_user.1 h)
    exact ⟨huser.1, huser.2.1, by simp [huser.2.2]⟩
  · intro h
    have hai := hai (value_eq_ai.1 h)
    exact ⟨by simp [hai.1], hai.2⟩

theorem Agree.path (agree : Agree) {value : List Char} {sequence : Nat}
    (h : validNarrationPath value sequence = true) : validSmartEditRelativePath value = true := by
  obtain ⟨number, hlen, hdigits, hvalue⟩ := narrationPath_eq h
  have hplain : ∀ c ∈ value, Plain c := by
    have hfirst : "voiceover/sentence-".toList.all (fun c => decide (Plain c)) = true := by decide
    have hlast : ".wav".toList.all (fun c => decide (Plain c)) = true := by decide
    intro c hc
    have hc : c ∈ "voiceover/sentence-".toList ++ number ++ ".wav".toList := hvalue ▸ hc
    rcases List.mem_append.1 hc with hc | hc
    · rcases List.mem_append.1 hc with hc | hc
      · exact of_decide_eq_true (List.all_eq_true.1 hfirst c hc)
      · exact (plain_digit (hdigits c hc)).1
    · exact of_decide_eq_true (List.all_eq_true.1 hlast c hc)
  have hbytes : byteLength value ≤ 512 := by
    rw [byteLength_plain hplain, hvalue]
    simp [hlen]
  have hcontrol : value.any HostText.isControl = false :=
    List.any_eq_false.2 fun c hc => by
      rw [agree.printable c (hplain c hc).1 (hplain c hc).2.1]
      exact Bool.false_ne_true
  have hcomponents : normalComponents value = true := by
    rw [normalComponents, hvalue, splitOn_narrationPath hdigits]
    simp
  refine decide_eq_true ⟨?_, hbytes, ?_, hcontrol, ?_, hcomponents⟩
  · rw [hvalue]
    exact List.cons_ne_nil _ _
  · exact fun hmem => (hplain _ hmem).2.2.1 rfl
  · rw [hvalue]
    simp

theorem paragraph_validate (agree : Agree) (p : Paragraph) :
    (readParagraph p).validate p.sequence = true := by
  have hwindow : (readParagraph p).validSourceWindow = true := by
    have hwindow := p.valid.window
    unfold ParagraphFields.validWindow at hwindow
    cases hi : p.visualSourceInMs <;> cases ho : p.visualSourceOutMs <;>
      simp [hi, ho] at hwindow <;>
      simp [VideoWorkerSmartEditParagraph.validSourceWindow, readParagraph, hi, ho]
    omega
  have hcaption := p.valid.caption
  obtain ⟨hne, -, -, hlen, -⟩ := of_decide_eq_true hcaption
  have hvisual := canonical_hyphenated p.valid.visualId
  have haudio := canonical_hyphenated p.valid.audioId
  have horiginal : readKind p.kind = .originalSpeech →
      Hex.hyphenated p.audioMaterialId = Hex.hyphenated p.visualMaterialId ∧
        p.visualSourceInMs ≠ none := by
    intro h
    have hkind : p.kind = .originalSpeech := by
      cases hk : p.kind
      · rfl
      · rw [hk] at h
        cases h
    obtain ⟨haudio, hsource⟩ := p.valid.original hkind
    exact ⟨congrArg _ haudio, hsource⟩
  have hduration := p.valid.duration_pos
  have hclean : (p.captionText.any fun c =>
      HostText.isControl c && !(c = '\n' || c = '\t')) = false := by
    rw [List.any_eq_false]
    intro c hc hbad
    have hcontrol : HostText.isControl c = true := (Bool.and_eq_true_iff.1 hbad).1
    rcases layout_of_validateText agree.control hcaption hc hcontrol with rfl | rfl <;>
      simp at hbad
  unfold VideoWorkerSmartEditParagraph.validate
  rw [decide_eq_true_eq]
  exact ⟨rfl, hvisual, haudio, Nat.ne_of_gt hduration, hwindow, hne, agree.trimmed hcaption, hlen,
    hclean, horiginal⟩

theorem narration_validate (agree : Agree) (n : SmartEditNarrationRegistration) (p : Paragraph) :
    (readNarration n).validate (readParagraph p) = true ↔
      n.sequence = p.sequence ∧ n.materialId = p.audioMaterialId ∧ n.durationMs = p.durationMs := by
  have hseq := n.sequence_pos
  have hbytes := n.bytes_pos
  have hmax : n.bytesWritten ≤ 512 * 1024 * 1024 := n.bytes_le.trans (by decide)
  have hpath := agree.path n.path
  unfold VideoWorkerSmartEditNarrationRegistration.validate
  rw [decide_eq_true_eq]
  dsimp only [readNarration, readParagraph]
  rw [hyphenated_inj n.canonical p.valid.audioId]
  constructor
  · intro h
    exact ⟨h.2.1, h.2.2.1, h.2.2.2.1⟩
  · intro ⟨hs, hm, hd⟩
    exact ⟨Nat.ne_of_gt hseq, hs, hm, hd, Nat.ne_of_gt hbytes, hmax, n.digest, hpath⟩

end
end
end AutomationTool.Desktop
