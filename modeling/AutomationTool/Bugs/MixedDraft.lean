import AutomationTool.Desktop.SmartEditDocument

/-!
# A cut with original speech and narration

The worker numbers the narrations of a result from one, and the paragraphs of the draft
through the whole line, in which the original speech comes first. The host compares the two
numbers, and it wants no digest twice.

* `accepted_iff`: the host takes a result exactly when it does not mix the two kinds and no
  identifier and no digest of its pieces occurs twice; it then pairs every narration with
  its own paragraph.
-/
namespace AutomationTool.Bugs.MixedDraft

open Editing Executor.SmartEdit Protocol Desktop

/-- What is written back of a narration is what was generated. -/
structure Carries (r : SmartEditNarrationRegistration) (n : SmartEditNarrationMaterialRequest) :
    Prop where
  materialId : n.materialId = Hex.hyphenated r.materialId
  contentDigest : n.contentDigest = r.contentDigest
  durationMs : n.durationMs = r.durationMs

/-! ## Lists -/

theorem find?_key {α β : Type} [DecidableEq β] {key : α → β} {xs : List α}
    (h : (xs.map key).Nodup) {a : α} (ha : a ∈ xs) : xs.find? (fun x => key x = key a) = some a := by
  induction xs with
  | nil => exact absurd ha List.not_mem_nil
  | cons x xs ih =>
    obtain ⟨hx, hxs⟩ := List.nodup_cons.1 h
    rcases List.mem_cons.1 ha with rfl | ha
    · simp
    · have hne : key x ≠ key a := fun heq => hx (heq ▸ List.mem_map_of_mem ha)
      rw [List.find?_cons_of_neg (by simpa using hne)]
      exact ih hxs ha

theorem forall₂_zipWith {α β γ : Type} {R : α → β → Prop} {f : α → β → γ} {as : List α}
    {bs : List β} (h : List.Forall₂ R as bs) :
    List.Forall₂ (fun a c => ∃ b ∈ bs, R a b ∧ c = f a b) as (as.zipWith f bs) ∧
      List.Forall₂ (fun c b => ∃ a ∈ as, R a b ∧ c = f a b) (as.zipWith f bs) bs := by
  induction h with
  | nil => exact ⟨.nil, .nil⟩
  | @cons a b as bs hab _ ih =>
    constructor
    · refine .cons ⟨b, List.mem_cons_self, hab, rfl⟩ (ih.1.imp ?_)
      exact fun _ _ ⟨b', hb', hR⟩ => ⟨b', List.mem_cons_of_mem b hb', hR⟩
    · refine .cons ⟨a, List.mem_cons_self, hab, rfl⟩ (ih.2.imp ?_)
      exact fun _ _ ⟨a', ha', hR⟩ => ⟨a', List.mem_cons_of_mem a ha', hR⟩

theorem map_carries {γ : Type} {rs : List SmartEditNarrationRegistration}
    {ns : List SmartEditNarrationMaterialRequest} (h : List.Forall₂ Carries rs ns)
    {f : SmartEditNarrationMaterialRequest → γ} {g : SmartEditNarrationRegistration → γ}
    (hfg : ∀ r n, Carries r n → f n = g r) : ns.map f = rs.map g := by
  induction h with
  | nil => rfl
  | cons hr _ ih => rw [List.map_cons, List.map_cons, hfg _ _ hr, ih]

section

variable [UnicodeData]

/-- What is written back of a narration belongs to the paragraph. -/
structure Belongs (n : SmartEditNarrationMaterialRequest) (p : Paragraph) : Prop where
  materialId : n.materialId = Hex.hyphenated p.audioMaterialId
  durationMs : n.durationMs = p.durationMs
  speechTranscript : n.speechTranscript = p.captionText

/-! ## Which paragraph the host finds -/

theorem nodup_sequences (d : LocalEditingTimelineDraft) :
    ((readDraft d).paragraphs.map (·.sequence)).Nodup := by
  have hmap : (readDraft d).paragraphs.map (·.sequence) = d.paragraphs.map (·.sequence) := by
    simp [readDraft, readParagraph, Function.comp_def]
  rw [hmap, d.sequences]
  exact List.nodup_range'

theorem find_paragraph (d : LocalEditingTimelineDraft) {p : Paragraph} (h : p ∈ d.paragraphs) :
    (readDraft d).paragraphs.reverse.find? (fun q => q.sequence = p.sequence) =
      some (readParagraph p) := by
  have hnodup : ((readDraft d).paragraphs.reverse.map (·.sequence)).Nodup := by
    rw [List.map_reverse, List.nodup_reverse]
    exact nodup_sequences d
  have hmem : readParagraph p ∈ (readDraft d).paragraphs.reverse :=
    List.mem_reverse.2 (List.mem_map_of_mem h)
  exact find?_key hnodup hmem

/-! ## What is written back -/

def narrationOf (r : SmartEditNarrationRegistration) (p : Paragraph) :
    SmartEditNarrationMaterialRequest where
  materialId := Hex.hyphenated r.materialId
  contentDigest := r.contentDigest
  durationMs := r.durationMs
  speechTranscript := p.captionText

/-- The paragraphs that the narrations are for. -/
def Narrated (result : SmartEditGenerationResult) : Prop :=
  List.Forall₂ (fun r p => Narrates 0 (SmartEditNarrationRegistration.binding r)
      p.toParagraphFields)
    result.narrationRegistrations (result.draft.paragraphs.filter (·.kind = .narrated))

def narrationsOf (result : SmartEditGenerationResult) : List SmartEditNarrationMaterialRequest :=
  result.narrationRegistrations.zipWith narrationOf
    (result.draft.paragraphs.filter (·.kind = .narrated))

/-- What is written back carries the narrations and belongs to the paragraphs. -/
theorem narrationsOf_pairs {result : SmartEditGenerationResult} (h : Narrated result) :
    List.Forall₂ Carries result.narrationRegistrations (narrationsOf result) ∧
      List.Forall₂ Belongs (narrationsOf result)
        (result.draft.paragraphs.filter (·.kind = .narrated)) := by
  obtain ⟨hcarries, hbelongs⟩ := forall₂_zipWith (f := narrationOf) h
  constructor
  · refine hcarries.imp ?_
    intro r n ⟨p, _, _, hn⟩
    rw [hn]
    exact ⟨rfl, rfl, rfl⟩
  · refine hbelongs.imp ?_
    intro n p ⟨r, _, hr, hn⟩
    rw [hn]
    exact ⟨congrArg Hex.hyphenated hr.material, hr.duration, rfl⟩

/-- The identifiers and the digests of what a result is about. -/
def identifiers (analyses : List SmartEditMaterialAnalysis)
    (registrations : List SmartEditNarrationRegistration) : List Uuid :=
  analyses.map (·.materialId) ++ registrations.map (·.materialId)

def digests (analyses : List SmartEditMaterialAnalysis)
    (registrations : List SmartEditNarrationRegistration) : List (List Char) :=
  analyses.map (·.contentDigest) ++ registrations.map (·.contentDigest)

theorem nodup_hyphenated {analyses : List SmartEditMaterialAnalysis}
    {registrations : List SmartEditNarrationRegistration} :
    ((identifiers analyses registrations).map Hex.hyphenated).Nodup ↔
      (identifiers analyses registrations).Nodup := by
  refine ⟨List.Nodup.of_map _, fun h => h.map_on ?_⟩
  have hcanonical : ∀ u ∈ identifiers analyses registrations, isCanonicalMaterialId u = true := by
    intro u hu
    rcases List.mem_append.1 hu with hu | hu
    · obtain ⟨a, -, rfl⟩ := List.mem_map.1 hu
      exact a.canonical
    · obtain ⟨r, -, rfl⟩ := List.mem_map.1 hu
      exact r.canonical
  exact fun u hu v hv huv => (hyphenated_inj (hcanonical u hu) (hcanonical v hv)).1 huv

theorem narrated_of_shift {shift : Nat} {result : SmartEditGenerationResult}
    (h : List.Forall₂ (fun r p => Narrates shift (SmartEditNarrationRegistration.binding r)
        p.toParagraphFields)
      result.narrationRegistrations (result.draft.paragraphs.filter (·.kind = .narrated)))
    (hshift : result.narrationRegistrations = [] ∨ shift = 0) : Narrated result := by
  unfold Narrated
  rcases hshift with hnone | rfl
  · rw [hnone] at h ⊢
    rw [List.forall₂_nil_left_iff.1 h]
    exact .nil
  · exact h

theorem registrations_eq_nil {selected : ResolvedSpeechAwareParagraphDraft}
    {narration : Option PreparedSmartEditNarration} {prepared : PreparedSmartEditMaterials}
    {result : SmartEditGenerationResult} (h : generated selected narration prepared = some result) :
    result.narrationRegistrations = [] ↔ selected.narratedParagraphs = [] := by
  obtain ⟨hproject, -, hregistrations⟩ := generated_eq_some h
  have hseq := congrArg List.length (project_eq_some hproject).1
  rw [bindings_eq, ← hregistrations, List.length_map, List.length_map, List.length_range'] at hseq
  rw [← List.length_eq_zero_iff, ← List.length_eq_zero_iff, hseq]

variable [IsoText]

theorem narrated_read (jobId : Uuid) (result : SmartEditGenerationResult) :
    (readResult jobId result).narrated =
      (result.draft.paragraphs.filter (·.kind = .narrated)).map readParagraph := by
  have hkind (p : Paragraph) : ((readParagraph p).kind = .narrated) ↔ p.kind = .narrated := by
    cases h : p.kind <;> simp [readParagraph, readKind, h]
  simp only [VideoWorkerSmartEditResult.narrated, readResult, readDraft, List.filter_map]
  congr 1
  exact List.filter_congr fun p _ => decide_eq_decide.2 (hkind p)

theorem narrationRequests_read {result : SmartEditGenerationResult} (h : Narrated result)
    (jobId : Uuid) :
    (readResult jobId result).narrationRegistrations.mapM
      (readResult jobId result).narrationRequest = some (narrationsOf result) := by
  have hzip := (forall₂_zipWith (f := narrationOf) h).1
  show (result.narrationRegistrations.map readNarration).mapM _ = _
  rw [mapM_eq_some, List.forall₂_map_left_iff]
  refine hzip.imp ?_
  intro r n ⟨p, hp, hr, hn⟩
  have hseq : r.sequence = p.sequence := by
    have : p.sequence = 0 + r.sequence := hr.sequence
    omega
  have hfind := find_paragraph result.draft (List.mem_of_mem_filter hp)
  rw [← hseq] at hfind
  unfold VideoWorkerSmartEditResult.narrationRequest
  show ((readDraft result.draft).paragraphs.reverse.find? (fun q => q.sequence = r.sequence) >>= _) = _
  rw [hfind, hn]
  rfl

/-! ## What it takes -/

/-- The request for what a result writes back. -/
def requestOf (result : SmartEditGenerationResult) : SmartEditMaterialWritebackRequest where
  analyses := result.analysisUpdates.map readAnalysis
  narrations := narrationsOf result

theorem requestOf_identifiers {result : SmartEditGenerationResult} (h : Narrated result) :
    (requestOf result).identifiers =
      (identifiers result.analysisUpdates result.narrationRegistrations).map Hex.hyphenated := by
  have hnarrations := map_carries (narrationsOf_pairs h).1 (f := (·.materialId))
    (g := fun r => Hex.hyphenated r.materialId) fun _ _ hr => hr.materialId
  simp only [SmartEditMaterialWritebackRequest.identifiers, requestOf, hnarrations, identifiers,
    List.map_append, List.map_map]
  rfl

theorem requestOf_digests {result : SmartEditGenerationResult} (h : Narrated result) :
    (requestOf result).digests =
      digests result.analysisUpdates result.narrationRegistrations := by
  have hnarrations := map_carries (narrationsOf_pairs h).1 (f := (·.contentDigest))
    (g := (·.contentDigest)) fun _ _ hr => hr.contentDigest
  simp only [SmartEditMaterialWritebackRequest.digests, requestOf, hnarrations, digests,
    List.map_map]
  rfl

theorem writebackRequest_read {result : SmartEditGenerationResult} (h : Narrated result)
    (jobId : Uuid) :
    (readResult jobId result).writebackRequest =
      some (if (requestOf result).analyses = [] ∧ (requestOf result).narrations = [] then none
        else some (requestOf result)) := by
  unfold VideoWorkerSmartEditResult.writebackRequest
  rw [narrationRequests_read h jobId]
  show (if (requestOf result).analyses = [] ∧ (requestOf result).narrations = [] then
    some none else some (some (requestOf result))) = _
  split <;> rfl

variable [HostText]

/-- The host takes the document of a result, and pairs every narration with its paragraph. -/
def Accepted (jobId : Uuid) (result : SmartEditGenerationResult) : Prop :=
  ∃ r request, VideoWorkerSmartEditResult.ofJson (resultDocument jobId result) = some r ∧
    r.validate (Hex.hyphenated jobId) = true ∧ r.writebackRequest = some request ∧
    List.Forall₂ Carries result.narrationRegistrations (request.elim [] (·.narrations)) ∧
    List.Forall₂ Belongs (request.elim [] (·.narrations))
      (result.draft.paragraphs.filter (·.kind = .narrated))

theorem zipIdx_validate (agree : Agree) (d : LocalEditingTimelineDraft) :
    ∀ x ∈ (readDraft d).paragraphs.zipIdx, x.1.validate (x.2 + 1) = true := by
  intro x hx
  have hget : (d.paragraphs.map readParagraph)[x.2]? = some x.1 := List.mem_zipIdx_iff_getElem?.1 hx
  rw [List.getElem?_map] at hget
  obtain ⟨p, hp, hread⟩ := Option.map_eq_some_iff.1 hget
  have hseq := congrArg (·[x.2]?) d.sequences
  obtain ⟨hlt, -⟩ := List.getElem?_eq_some_iff.1 hp
  simp only [List.getElem?_map, hp, Option.map_some, List.getElem?_range' hlt] at hseq
  have hseq : p.sequence = x.2 + 1 := by
    have := Option.some.inj hseq
    omega
  rw [← hread, ← hseq]
  exact paragraph_validate agree p

/-- The host compares the place of each narration with that of its paragraph. -/
theorem pairs_validate (agree : Agree) {shift : Nat} {rs : List SmartEditNarrationRegistration}
    {ps : List Paragraph}
    (h : List.Forall₂ (fun r p => Narrates shift (SmartEditNarrationRegistration.binding r)
      p.toParagraphFields) rs ps) :
    (∀ x ∈ (rs.map readNarration).zip (ps.map readParagraph), x.1.validate x.2 = true) ↔
      (rs = [] ∨ shift = 0) := by
  rw [List.zip_map]
  constructor
  · intro hall
    cases h with
    | nil => exact .inl rfl
    | @cons r p rs ps hr _ =>
      have hvalid := hall (readNarration r, readParagraph p) List.mem_cons_self
      have hsame : r.sequence = p.sequence := ((narration_validate agree r p).1 hvalid).1
      have hshift : p.sequence = shift + r.sequence := hr.sequence
      exact .inr (by omega)
  · intro hshift x hx
    obtain ⟨⟨r, p⟩, hmem, rfl⟩ := List.mem_map.1 hx
    have hr := (List.forall₂_iff_zip.1 h).2 hmem
    have hplace : p.sequence = shift + r.sequence := hr.sequence
    rcases hshift with rfl | rfl
    · simp at hmem
    · exact (narration_validate agree r p).2 ⟨by omega, hr.material, hr.duration⟩

theorem narrationOf_validate (agree : Agree) (r : SmartEditNarrationRegistration) (p : Paragraph) :
    (narrationOf r p).validate = true := by
  have hid := canonical_hyphenated r.canonical
  have hcaption : validateText 100000 p.captionText = true := by
    obtain ⟨hne, hhead, hlast, hlen, hall⟩ := of_decide_eq_true p.valid.caption
    exact decide_eq_true ⟨hne, hhead, hlast, hlen.trans (by decide), hall⟩
  have hmax : r.durationMs ≤ maxEditingMaterialDurationMs := r.duration_le
  unfold SmartEditNarrationMaterialRequest.validate
  rw [decide_eq_true_eq]
  exact ⟨hid, r.digest, r.duration_pos, hmax, agree.validText hcaption⟩

theorem requestOf_validate (agree : Agree) {result : SmartEditGenerationResult}
    (h : Narrated result) (hanalyses : result.analysisUpdates.length ≤ 32)
    (hregistrations : result.narrationRegistrations.length ≤ 32)
    (hne : ¬((requestOf result).analyses = [] ∧ (requestOf result).narrations = [])) :
    (requestOf result).validate = true ↔
      (identifiers result.analysisUpdates result.narrationRegistrations).Nodup ∧
        (digests result.analysisUpdates result.narrationRegistrations).Nodup := by
  have hvalid : (requestOf result).analyses.all (·.validate) = true := by
    refine List.all_eq_true.2 fun a ha => ?_
    obtain ⟨a, -, rfl⟩ := List.mem_map.1 ha
    exact analysis_validate agree a
  have hnarrations : (requestOf result).narrations.all (·.validate) = true := by
    refine List.all_eq_true.2 fun n hn => ?_
    rw [requestOf, narrationsOf, ← List.map_uncurry_zip_eq_zipWith] at hn
    obtain ⟨x, -, rfl⟩ := List.mem_map.1 hn
    exact narrationOf_validate agree x.1 x.2
  have hlength : (requestOf result).narrations.length ≤ 32 := by
    rw [requestOf, ← (narrationsOf_pairs h).1.length_eq]
    exact hregistrations
  have hanalyses : (requestOf result).analyses.length ≤ 32 := by
    simpa [requestOf] using hanalyses
  unfold SmartEditMaterialWritebackRequest.validate
  rw [decide_eq_true_eq, requestOf_identifiers h, requestOf_digests h, nodup_hyphenated]
  constructor
  · intro hall
    exact ⟨hall.2.2.2.2.2.1, hall.2.2.2.2.2.2⟩
  · intro ⟨hids, hdigests⟩
    exact ⟨hanalyses, hlength, hne, hvalid, hnarrations, hids, hdigests⟩

/-- With nothing to write back, nothing occurs twice. -/
theorem writeback_validate (agree : Agree) {result : SmartEditGenerationResult}
    (h : Narrated result) (hanalyses : result.analysisUpdates.length ≤ 32)
    (hregistrations : result.narrationRegistrations.length ≤ 32) (jobId : Uuid) :
    ((readResult jobId result).writebackRequest.any fun request => request.all (·.validate)) =
        true ↔
      (identifiers result.analysisUpdates result.narrationRegistrations).Nodup ∧
        (digests result.analysisUpdates result.narrationRegistrations).Nodup := by
  rw [writebackRequest_read h, Option.any_some]
  split
  · rename_i hempty
    have hanalyses : result.analysisUpdates = [] := List.map_eq_nil_iff.1 hempty.1
    have hregistrations : result.narrationRegistrations = [] := by
      have hlen := (narrationsOf_pairs h).1.length_eq
      have hnone : (narrationsOf result).length = 0 := congrArg List.length hempty.2
      exact List.length_eq_zero_iff.1 (hlen.trans hnone)
    simp [identifiers, digests, hanalyses, hregistrations]
  · rename_i hne
    exact requestOf_validate agree h hanalyses hregistrations hne

/-- The host takes what it can pair. -/
theorem validate_iff (agree : Agree) {shift : Nat} {result : SmartEditGenerationResult}
    (h : List.Forall₂ (fun r p => Narrates shift (SmartEditNarrationRegistration.binding r)
        p.toParagraphFields)
      result.narrationRegistrations (result.draft.paragraphs.filter (·.kind = .narrated)))
    (hanalyses : result.analysisUpdates.length ≤ 32) (jobId : Uuid) :
    (readResult jobId result).validate (Hex.hyphenated jobId) = true ↔
      (result.narrationRegistrations = [] ∨ shift = 0) ∧
        ((readResult jobId result).writebackRequest.any fun request =>
          request.all (·.validate)) = true ∧
        (result.narrationRegistrations.map (·.contentDigest)).Nodup := by
  have hread : (readResult jobId result).narrationRegistrations =
    result.narrationRegistrations.map readNarration := rfl
  have hparagraphs : (readResult jobId result).draft = readDraft result.draft := rfl
  have hlength : (readDraft result.draft).paragraphs.length ≤ 32 := by
    rw [readDraft, List.length_map]
    exact result.draft.length_le
  have hnonempty : (readDraft result.draft).paragraphs ≠ [] := by
    refine List.ne_nil_of_length_pos ?_
    rw [readDraft, List.length_map]
    exact result.draft.nonempty
  have hregistrations : result.narrationRegistrations.length ≤ 32 := by
    rw [h.length_eq]
    exact (List.length_filter_le _ _).trans result.draft.length_le
  have hduration : 100 ≤ (readDraft result.draft).durationMs ∧
      (readDraft result.draft).durationMs ≤ 4 * 60 * 60 * 1000 :=
    ⟨result.draft.duration_ge, result.draft.duration_le.trans (by decide)⟩
  have hsum : ((readDraft result.draft).paragraphs.map (·.durationMs)).sum =
      (readDraft result.draft).durationMs := by
    simp [readDraft, readParagraph, Function.comp_def, LocalEditingTimelineDraft.durationMs]
  have hcount : ((result.draft.paragraphs.filter (·.kind = .narrated)).map readParagraph).length =
      (result.narrationRegistrations.map readNarration).length := by
    rw [List.length_map, List.length_map, h.length_eq]
  have hids : ((result.narrationRegistrations.map readNarration).map (·.materialId)).Nodup := by
    have hnodup : ((identifiers [] result.narrationRegistrations).map Hex.hyphenated).Nodup :=
      nodup_hyphenated.2 result.ids
    simpa [identifiers, readNarration, Function.comp_def] using hnodup
  have hdigests : (result.narrationRegistrations.map readNarration).map (·.contentDigest) =
      result.narrationRegistrations.map (·.contentDigest) := by
    simp [readNarration, Function.comp_def]
  have hanalyses : (readResult jobId result).analysisUpdates.length ≤ 32 := by
    simpa [readResult] using hanalyses
  unfold VideoWorkerSmartEditResult.validate
  rw [decide_eq_true_eq, hparagraphs, narrated_read, hread, pairs_validate agree h, hdigests]
  constructor
  · intro hall
    exact ⟨hall.2.2.2.2.2.2.2.2.2.2.2.1, hall.2.2.2.2.2.2.2.2.2.2.2.2.2.2,
      hall.2.2.2.2.2.2.2.2.2.2.2.2.2.1⟩
  · rintro ⟨hshift, hwriteback, hdistinct⟩
    refine ⟨rfl, rfl, hanalyses, ?_, hnonempty, hlength.trans (by decide), hduration,
      zipIdx_validate agree result.draft, nodup_sequences result.draft, hsum, hcount, hshift, hids,
      hdistinct, hwriteback⟩
    rw [List.length_map]
    exact hregistrations

/-- The host takes a result exactly when it does not mix original speech with narration and
names no material and no digest twice. -/
theorem accepted_iff (agree : Agree) {selected : ResolvedSpeechAwareParagraphDraft}
    {narration : Option PreparedSmartEditNarration} {prepared : PreparedSmartEditMaterials}
    {result : SmartEditGenerationResult} (h : generated selected narration prepared = some result)
    (jobId : Uuid) :
    Accepted jobId result ↔
      (selected.originalSpeechParagraphs = [] ∨ selected.narratedParagraphs = []) ∧
        (identifiers prepared.analysisUpdates (narration.elim [] (·.registrations))).Nodup ∧
        (digests prepared.analysisUpdates (narration.elim [] (·.registrations))).Nodup := by
  obtain ⟨-, hanalyses, hregistrations⟩ := generated_eq_some h
  have hnarrates := generated_narrations h
  have hle : result.analysisUpdates.length ≤ 32 := by
    rw [hanalyses]
    exact prepared.updates_le
  have hcount : result.narrationRegistrations.length ≤ 32 := by
    rw [hnarrates.length_eq]
    exact (List.length_filter_le _ _).trans result.draft.length_le
  have hshift : (result.narrationRegistrations = [] ∨ selected.originalSpeechParagraphs.length = 0) ↔
      (selected.originalSpeechParagraphs = [] ∨ selected.narratedParagraphs = []) := by
    rw [registrations_eq_nil h, List.length_eq_zero_iff, or_comm]
  rw [← hshift, ← hanalyses, ← hregistrations]
  constructor
  · intro ⟨r, request, hread, hvalid, _⟩
    rw [ofJson_result] at hread
    cases hread
    obtain ⟨hnone, hwriteback, -⟩ := (validate_iff agree hnarrates hle jobId).1 hvalid
    have hnarrated := narrated_of_shift hnarrates hnone
    exact ⟨hnone, (writeback_validate agree hnarrated hle hcount jobId).1 hwriteback⟩
  · intro ⟨hnone, hdistinct⟩
    have hnarrated := narrated_of_shift hnarrates hnone
    have hwriteback := (writeback_validate agree hnarrated hle hcount jobId).2 hdistinct
    have hdigests : (result.narrationRegistrations.map (·.contentDigest)).Nodup :=
      (List.nodup_append.1 hdistinct.2).2.1
    have hvalid := (validate_iff agree hnarrates hle jobId).2 ⟨hnone, hwriteback, hdigests⟩
    have hrequest := writebackRequest_read hnarrated jobId
    have hpairs := narrationsOf_pairs hnarrated
    have hnarrations : (if (requestOf result).analyses = [] ∧ (requestOf result).narrations = []
        then none else some (requestOf result)).elim [] (·.narrations) = narrationsOf result := by
      split
      · rename_i hempty
        exact hempty.2.symm
      · rfl
    refine ⟨_, _, ofJson_result jobId result, hvalid, hrequest, ?_, ?_⟩
    · rw [hnarrations]
      exact hpairs.1
    · rw [hnarrations]
      exact hpairs.2

end

/-! ## One clip that speaks, one sentence -/

namespace Concrete

/-- The ASCII part of the character tables. -/
scoped instance ascii : UnicodeData where
  isSpace c := c.isWhitespace
  isOther c := c.val < 32 ∨ c.val = 127

scoped instance host : HostText where
  isWhitespace c := c.isWhitespace
  isControl c := c.val < 32 ∨ c.val = 127
  isOther c := c.val < 32 ∨ c.val = 127
  isUtcTime text := text.getLast? = some 'Z'

scoped instance iso : IsoText where
  isoformat _ := "2026-07-28T00:00:00".toList

theorem agree : Agree where
  whitespace _ h := h
  control _ h := h
  other _ h := h
  printable c h1 h2 := by
    have h1 : (32 : UInt32) ≤ c.val := h1
    have h2 : c.val ≤ (126 : UInt32) := h2
    refine decide_eq_false fun h => ?_
    rcases h with h | h
    · exact absurd h (UInt32.not_lt.2 h1)
    · rw [h] at h2
      exact absurd h2 (by decide)
  time _ := by
    show boundedTimestamp ("2026-07-28T00:00:00".toList ++ ['Z']) = true
    decide +kernel

/-- A version 4 UUID for a small number. -/
def uuid (n : Nat) : Uuid := 4 * 2 ^ 76 + 2 * 2 ^ 62 + n

def digest (c : Char) : List Char := List.replicate 64 c

/-- The clip that speaks. -/
def speech : OriginalSpeechParagraphDraft where
  materialId := uuid 1
  sourceInMs := 0
  sourceOutMs := 1000
  visualStartMs := 0
  visualDurationMs := 1000
  ambientStartMs := 0
  ambientDurationMs := 1000
  captionStartMs := 0
  captionDurationMs := 1000
  captionText := "Hello.".toList
  canonical := by decide +kernel
  source_lt := by decide
  source_le := (by decide : maxLocalEditingMaterialDurationMs ≥ 1000)
  starts := by decide
  durations := by decide
  caption := by decide +kernel

/-- The sentence, over another clip. -/
def sentence : SelectedNarratedParagraphDraft where
  sequence := 1
  captionText := "And good bye.".toList
  narrationRelativePath := "voiceover/sentence-0001.wav".toList
  durationMs := 2000
  segment := {
    materialId := uuid 2
    score := 90
    durationMs := 2000
    sourceInMs := some 0
    sourceOutMs := some 2000
    canonical := by decide +kernel
    score_ge := by decide
    score_le := by decide
    duration_pos := by decide
    duration_le := by decide
    ends := rfl
    window := by decide }
  sequence_pos := Nat.one_pos
  sequence_le := by decide
  caption := by decide +kernel
  path := by decide +kernel
  duration_pos := by decide
  duration_le := by decide
  fits := rfl

def registration : SmartEditNarrationRegistration where
  sequence := 1
  materialId := uuid 3
  relativePath := "voiceover/sentence-0001.wav".toList
  durationMs := 2000
  contentDigest := digest 'a'
  bytesWritten := 88244
  sequence_pos := Nat.one_pos
  sequence_le := by decide
  path := by decide +kernel
  canonical := by decide +kernel
  duration_pos := by decide
  duration_le := by decide
  digest := by decide +kernel
  bytes_pos := by decide
  bytes_le := by decide

def narration : PreparedSmartEditNarration where
  bindings := [registration.binding]
  registrations := [registration]
  nonempty := by simp
  sequences := by simp
  ids := by simp
  bound := rfl

/-- One of the two clips. -/
def material (n : Nat) (c : Char) : MaterialFields where
  kind := .video
  durationMs := some 5000
  width := some 1920
  height := some 1080
  contentDigest := digest c
  hasAudio := true
  audioLoudnessLufs := none
  hasSpeech := false
  speechSegmentsMs := []
  speechTranscript := none
  aiDescription := none
  aiTags := []
  descriptionSource := .ai
  describedAt := none
  shotBoundariesMs := []
  materialId := uuid n

def prepared : PreparedSmartEditMaterials where
  materials := [⟨material 1 'c', by decide +kernel⟩, ⟨material 2 'd', by decide +kernel⟩]
  analysisUpdates := []
  nonempty := by simp
  length_le := by decide
  materialIds := by decide
  analysisIds := by simp
  known := by simp

/-- The clip speaks first, then the sentence is read. -/
def mixed : ResolvedSpeechAwareParagraphDraft where
  originalSpeechParagraphs := [speech]
  narratedParagraphs := [sentence]
  originals := by decide
  length_le := by decide
  sequences := rfl
  segments := by decide
  disjoint := by decide
  nonempty := .inl (by simp)

/-- The sentence alone. -/
def narratedOnly : ResolvedSpeechAwareParagraphDraft where
  originalSpeechParagraphs := []
  narratedParagraphs := [sentence]
  originals := by decide
  length_le := by decide
  sequences := rfl
  segments := by decide
  disjoint := by decide
  nonempty := .inr (by simp)

/-- A cut in which a clip speaks before a sentence is read is refused. -/
theorem mixed_rejected :
    ∃ result, generated mixed (some narration) prepared = some result ∧
      ¬Accepted (uuid 9) result := by
  obtain ⟨result, h⟩ : ∃ result, generated mixed (some narration) prepared = some result :=
    Option.isSome_iff_exists.1 (by decide +kernel)
  refine ⟨result, h, ?_⟩
  intro ⟨r, request, hread, hvalid, _⟩
  rw [ofJson_result] at hread
  cases hread
  have hnarrates := generated_narrations h
  obtain ⟨-, hanalyses, hregistrations⟩ := generated_eq_some h
  have hle : result.analysisUpdates.length ≤ 32 := by
    rw [hanalyses]
    decide
  obtain ⟨hshift, -⟩ := (validate_iff agree hnarrates hle (uuid 9)).1 hvalid
  rw [hregistrations] at hshift
  exact absurd hshift (by simp [narration, mixed])

/-- The sentence alone is taken, with its caption. -/
theorem narratedOnly_accepted :
    ∃ result, generated narratedOnly (some narration) prepared = some result ∧
      Accepted (uuid 9) result := by
  obtain ⟨result, h⟩ : ∃ result, generated narratedOnly (some narration) prepared = some result :=
    Option.isSome_iff_exists.1 (by decide +kernel)
  exact ⟨result, h, (accepted_iff agree h (uuid 9)).2
    ⟨.inl rfl, by decide +kernel, by decide +kernel⟩⟩

end Concrete
end AutomationTool.Bugs.MixedDraft
