import AutomationTool.Core.Assignment
import AutomationTool.Executor.SmartEditGeneration

/-!
# A picture for every sentence

Every sentence of a script has candidates, segments of the materials as long as its
narration. A still image may be shown by any number of sentences, a window of a video by one
of its material's. The first candidate of a sentence after which the rest of the sentences
can still be served is chosen.

* `hasCompleteAssignment_iff`: the check for the rest is exact.
* `select_spec`: the sentences are served whenever they can be, each with the first candidate
  that the choices before it leave.
* `resolve_cases`: the three ways in which resolving a draft ends.
-/
namespace AutomationTool.Executor.SmartEdit

open Protocol Editing Assignment

section

variable [UnicodeData]

/-- mirrors speech_paragraph_draft.py:72-121 -/
structure NarratedParagraphDraft where
  sequence : Nat
  captionText : List Char
  narrationRelativePath : List Char
  durationMs : Nat
  qualifiedMaterialIds : List Uuid
  candidates : List FittingMaterialSegment
  sequence_pos : 1 ≤ sequence
  sequence_le : sequence ≤ maxLocalEditingScriptSentences
  caption : validateText maxLocalEditingTranscriptCharacters captionText = true
  path : validNarrationPath narrationRelativePath sequence = true
  duration_pos : 1 ≤ durationMs
  duration_le : durationMs ≤ maxLocalEditingMaterialDurationMs
  qualified_le : qualifiedMaterialIds.length ≤ maxLocalEditingSemanticMaterials
  canonical : ∀ id ∈ qualifiedMaterialIds, isCanonicalMaterialId id = true
  qualified_nodup : qualifiedMaterialIds.Nodup
  candidates_le : candidates.length ≤ maxLocalEditingSemanticMaterials
  fits : ∀ c ∈ candidates, c.durationMs = durationMs
  ids : (candidates.map (·.materialId)).Nodup
  qualified : ∀ c ∈ candidates, c.materialId ∈ qualifiedMaterialIds
  order : candidates.IsChain fun earlier later =>
    qualifiedMaterialIds.idxOf earlier.materialId < qualifiedMaterialIds.idxOf later.materialId

/-- mirrors speech_paragraph_draft.py:174-224 -/
structure SpeechAwareParagraphDraft where
  originalSpeechParagraphs : List OriginalSpeechParagraphDraft
  silentMaterialIds : List Uuid
  narratedParagraphs : List NarratedParagraphDraft
  originals_le : originalSpeechParagraphs.length ≤ maxLocalEditingSemanticMaterials
  originals : (originalSpeechParagraphs.map (·.materialId)).Nodup
  silent_canonical : ∀ id ∈ silentMaterialIds, isCanonicalMaterialId id = true
  silent_nodup : silentMaterialIds.Nodup
  materials_le : originalSpeechParagraphs.length + silentMaterialIds.length ≤
    maxLocalEditingSemanticMaterials
  narrated_le : narratedParagraphs.length ≤ maxLocalEditingScriptSentences
  sequences : narratedParagraphs.map (·.sequence) = List.range' 1 narratedParagraphs.length
  silent_narrated : silentMaterialIds = [] ↔ narratedParagraphs = []
  qualified : ∀ p ∈ narratedParagraphs, ∀ id ∈ p.qualifiedMaterialIds, id ∈ silentMaterialIds
  disjoint : ∀ o ∈ originalSpeechParagraphs, o.materialId ∉ silentMaterialIds
  nonempty : originalSpeechParagraphs ≠ [] ∨ narratedParagraphs ≠ []

/-- mirrors speech_paragraph_draft.py:230-233 -/
inductive ParagraphDraftFailureCode where
  | insufficientMaterials
  | sourceTooShort
  | noRelevantMaterial
  deriving DecidableEq

/-- How resolving ends without a draft: an error is raised, or a failure is returned. -/
inductive Unresolved where
  | rejected
  | failure (code : ParagraphDraftFailureCode)
  deriving DecidableEq

/-! ## The check for the rest -/

/-- The material a segment takes; a still image takes none. -/
def FittingMaterialSegment.takes (s : FittingMaterialSegment) : Option Uuid :=
  if s.isStatic then none else some s.materialId

/-- What the sentence at a place may take. -/
def choicesAt (paragraphs : List NarratedParagraphDraft) (index : Nat) : List (Option Uuid) :=
  match paragraphs[index]? with
  | none => []
  | some p => p.candidates.map (·.takes)

/-- Every material that a sentence may take. -/
def takenMaterials (paragraphs : List NarratedParagraphDraft) : List Uuid :=
  paragraphs.flatMap fun p => p.candidates.map (·.materialId)

/-- A search never looks at a material twice, so it is no deeper than there are materials.
mirrors speech_paragraph_draft.py:536-557 -/
def hasCompleteAssignment (paragraphs : List NarratedParagraphDraft) (blocked : List Uuid) : Bool :=
  (assignAll (choicesAt paragraphs) blocked ((takenMaterials paragraphs).length + 1)
    (List.range paragraphs.length) fun _ => none).isSome

/-! ## Resolving -/

/-- The materials used after one more segment. -/
def usedAfter (used : List Uuid) (s : FittingMaterialSegment) : List Uuid :=
  if s.isStatic then used else s.materialId :: used

/-- The loop over the candidates of a sentence.
mirrors speech_paragraph_draft.py:585-595 -/
def choose (p : NarratedParagraphDraft) (rest : List NarratedParagraphDraft) (used : List Uuid) :
    Option FittingMaterialSegment :=
  p.candidates.find? fun c =>
    (c.isStatic || decide (c.materialId ∉ used)) && hasCompleteAssignment rest (usedAfter used c)

/-- The constructor of a selected paragraph; `rejected` when it rejects. -/
def SelectedNarratedParagraphDraft.make (p : NarratedParagraphDraft) (s : FittingMaterialSegment) :
    Except Unresolved SelectedNarratedParagraphDraft :=
  if h : s.durationMs = p.durationMs then
    .ok ⟨p.sequence, p.captionText, p.narrationRelativePath, p.durationMs, s, p.sequence_pos,
      p.sequence_le, p.caption, p.path, p.duration_pos, p.duration_le, h⟩
  else .error .rejected

/-- The constructor of a resolved draft; `rejected` when it rejects. -/
def ResolvedSpeechAwareParagraphDraft.make (originals : List OriginalSpeechParagraphDraft)
    (narrated : List SelectedNarratedParagraphDraft) :
    Except Unresolved ResolvedSpeechAwareParagraphDraft :=
  if h : (originals.map (·.materialId)).Nodup ∧
      originals.length + narrated.length ≤ maxLocalEditingSemanticMaterials ∧
      narrated.map (·.sequence) = List.range' 1 narrated.length ∧
      ((narrated.filter fun p => !p.segment.isStatic).map (·.segment.materialId)).Nodup ∧
      (∀ n ∈ narrated, ∀ o ∈ originals, n.segment.materialId ≠ o.materialId) ∧
      (originals ≠ [] ∨ narrated ≠ []) then
    .ok ⟨originals, narrated, h.1, h.2.1, h.2.2.1, h.2.2.2.1, h.2.2.2.2.1, h.2.2.2.2.2⟩
  else .error .rejected

/-- The loop over the sentences.
mirrors speech_paragraph_draft.py:581-609 -/
def select : List NarratedParagraphDraft → List Uuid →
    Except Unresolved (List SelectedNarratedParagraphDraft)
  | [], _ => .ok []
  | p :: rest, used =>
    match choose p rest used with
    | none => .error (.failure .insufficientMaterials)
    | some chosen => do
      let selected ← SelectedNarratedParagraphDraft.make p chosen
      let others ← select rest (usedAfter used chosen)
      .ok (selected :: others)

/-- The failure of the first sentence that has no candidate. -/
def firstFailure : List NarratedParagraphDraft → Option ParagraphDraftFailureCode
  | [] => none
  | p :: rest =>
    if p.qualifiedMaterialIds = [] then some .noRelevantMaterial
    else if p.candidates = [] then some .sourceTooShort
    else firstFailure rest

/-- mirrors speech_paragraph_draft.py:564-613 -/
def resolveSpeechAwareParagraphDraft (draft : SpeechAwareParagraphDraft) :
    Except Unresolved ResolvedSpeechAwareParagraphDraft :=
  if draft.narratedParagraphs = [] then
    ResolvedSpeechAwareParagraphDraft.make draft.originalSpeechParagraphs []
  else
    match firstFailure draft.narratedParagraphs with
    | some code => .error (.failure code)
    | none => do
      let selected ← select draft.narratedParagraphs []
      ResolvedSpeechAwareParagraphDraft.make draft.originalSpeechParagraphs selected

/-! ## What is looked for -/

/-- One candidate for each sentence; none takes what is used, and no two the same. -/
structure Choice (paragraphs : List NarratedParagraphDraft) (used : List Uuid)
    (segments : List FittingMaterialSegment) : Prop where
  candidates : List.Forall₂ (fun p s => s ∈ p.candidates) paragraphs segments
  unused : ∀ s ∈ segments, ∀ id ∈ s.takes, id ∉ used
  once : (segments.filterMap (·.takes)).Nodup

/-- Where a candidate stands among those of its sentence. -/
def position (p : NarratedParagraphDraft) (s : FittingMaterialSegment) : Nat :=
  (p.candidates.map (·.materialId)).idxOf s.materialId

/-- The first choice comes before the second, or is the same, in the order of the candidates
of the first sentence in which they differ. -/
def Precedes : List NarratedParagraphDraft → List FittingMaterialSegment →
    List FittingMaterialSegment → Prop
  | p :: ps, s :: ss, s' :: ss' => position p s < position p s' ∨ s = s' ∧ Precedes ps ss ss'
  | _, _, _ => True

/-! ## The check is exact -/

variable {paragraphs rest : List NarratedParagraphDraft} {p : NarratedParagraphDraft}
  {used : List Uuid} {segments : List FittingMaterialSegment} {s : FittingMaterialSegment}

omit [UnicodeData] in
theorem takes_eq_some {id : Uuid} (h : s.takes = some id) :
    s.isStatic = false ∧ s.materialId = id := by
  unfold FittingMaterialSegment.takes at h
  split at h
  · cases h
  · rename_i hstatic
    exact ⟨by simpa using hstatic, Option.some.inj h⟩

theorem choicesAt_some {index : Nat} (h : paragraphs[index]? = some p) :
    choicesAt paragraphs index = p.candidates.map (·.takes) := by
  rw [choicesAt, h]

theorem mem_takenMaterials {index : Nat} {id : Uuid} (h : some id ∈ choicesAt paragraphs index) :
    id ∈ takenMaterials paragraphs := by
  cases hget : paragraphs[index]? with
  | none => simp [choicesAt, hget] at h
  | some p =>
    rw [choicesAt_some hget] at h
    obtain ⟨s, hs, htakes⟩ := List.mem_map.1 h
    refine List.mem_flatMap.2 ⟨p, List.mem_of_getElem? hget, List.mem_map.2 ⟨s, hs, ?_⟩⟩
    exact (takes_eq_some htakes).2

/-- A choice for the sentences, as what each place takes. -/
theorem Choice.assigns (h : Choice paragraphs used segments) :
    Assigns (choicesAt paragraphs) used (List.range paragraphs.length)
      fun index => (segments[index]?).bind (·.takes) := by
  have hlength := h.candidates.length_eq
  have hget : ∀ i < paragraphs.length, ∃ p s, paragraphs[i]? = some p ∧ segments[i]? = some s ∧
      s ∈ p.candidates := by
    intro i hi
    refine ⟨paragraphs[i], segments[i], List.getElem?_eq_getElem hi,
      List.getElem?_eq_getElem (by omega), ?_⟩
    exact h.candidates.get hi (by omega)
  refine ⟨fun i hi => ?_, fun i hi id hid => ?_, fun i hi j hj id hfi hfj => ?_⟩
  · obtain ⟨p, s, hp, hs, hmem⟩ := hget i (List.mem_range.1 hi)
    rw [choicesAt_some hp, hs]
    exact List.mem_map_of_mem hmem
  · obtain ⟨p, s, -, hs, -⟩ := hget i (List.mem_range.1 hi)
    rw [hs] at hid
    exact h.unused s (List.mem_of_getElem? hs) id hid
  · obtain ⟨p, s, -, hs, -⟩ := hget i (List.mem_range.1 hi)
    obtain ⟨p', s', -, hs', -⟩ := hget j (List.mem_range.1 hj)
    simp only [hs, hs', Option.bind_some] at hfi hfj
    have hpairwise := List.pairwise_filterMap.1 h.once
    obtain ⟨hilt, rfl⟩ := List.getElem?_eq_some_iff.1 hs
    obtain ⟨hjlt, rfl⟩ := List.getElem?_eq_some_iff.1 hs'
    by_contra hne
    rcases Nat.lt_or_gt_of_ne hne with hlt | hlt
    · exact List.pairwise_iff_getElem.1 hpairwise i j hilt hjlt hlt id hfi id hfj rfl
    · exact List.pairwise_iff_getElem.1 hpairwise j i hjlt hilt hlt id hfj id hfi rfl

/-- What each place takes, as a choice for the sentences. -/
theorem exists_choice {f : Nat → Option Uuid}
    (h : Assigns (choicesAt paragraphs) used (List.range paragraphs.length) f) :
    ∃ segments, Choice paragraphs used segments := by
  have hall : ∀ x ∈ paragraphs.zipIdx, ∃ s, s ∈ x.1.candidates ∧ s.takes = f x.2 := by
    intro x hx
    have hget := List.mem_zipIdx_iff_getElem?.1 hx
    obtain ⟨hlt, -⟩ := List.getElem?_eq_some_iff.1 hget
    have hmem := h.choice x.2 (List.mem_range.2 hlt)
    rw [choicesAt_some hget] at hmem
    exact List.mem_map.1 hmem
  obtain ⟨segments, hsegments⟩ := exists_forall₂ hall
  have htakes : segments.map (·.takes) = (List.range paragraphs.length).map f := by
    rw [map_eq_of_forall₂ hsegments (f := fun x => f x.2) fun _ _ hs => hs.2,
      List.range_eq_range', ← List.zipIdx_map_snd 0 paragraphs, List.map_map]
    rfl
  refine ⟨segments, ?_, fun s hs id hid => ?_, ?_⟩
  · have hfst := hsegments.imp fun _ _ hs => hs.1
    rw [← List.forall₂_map_left_iff (f := fun x : NarratedParagraphDraft × Nat => x.1)
      (R := fun p s => s ∈ p.candidates)] at hfst
    rwa [List.zipIdx_map_fst] at hfst
  · have hmem : s.takes ∈ (List.range paragraphs.length).map f := by
      rw [← htakes]
      exact List.mem_map_of_mem hs
    obtain ⟨i, hi, heq⟩ := List.mem_map.1 hmem
    exact h.allowed i hi id (heq.trans hid)
  · have hnodup : ((List.range paragraphs.length).filterMap f).Nodup := by
      refine List.pairwise_filterMap.2 (List.nodup_range.imp_of_mem fun {i j} hi hj hne => ?_)
      rintro id hid id' hid' rfl
      exact hne (h.apart i hi j hj id hid hid')
    have heq : segments.filterMap (·.takes) = (List.range paragraphs.length).filterMap f :=
      calc segments.filterMap (·.takes)
          = (segments.map (·.takes)).filterMap id := by rw [List.filterMap_map]; rfl
        _ = ((List.range paragraphs.length).map f).filterMap id := by rw [htakes]
        _ = (List.range paragraphs.length).filterMap f := by rw [List.filterMap_map]; rfl
    rwa [heq]

/-- The check succeeds exactly when the sentences can be served. -/
theorem hasCompleteAssignment_iff :
    hasCompleteAssignment paragraphs used = true ↔ ∃ segments, Choice paragraphs used segments := by
  unfold hasCompleteAssignment
  rw [assignAll_spec (fun _ _ => mem_takenMaterials) (Nat.lt_succ_self _) served_nil
    (by rw [List.append_nil]) List.nodup_range]
  constructor
  · rintro ⟨f, hf⟩
    exact exists_choice hf
  · rintro ⟨segments, hchoice⟩
    exact ⟨_, hchoice.assigns⟩

/-! ## The choice -/

omit [UnicodeData] in
theorem mem_usedAfter {id : Uuid} : id ∈ usedAfter used s ↔ id ∈ s.takes ∨ id ∈ used := by
  unfold usedAfter FittingMaterialSegment.takes
  split
  · simp
  · simp [eq_comm]

theorem choice_cons : Choice (p :: rest) used (s :: segments) ↔
    s ∈ p.candidates ∧ (∀ id ∈ s.takes, id ∉ used) ∧ Choice rest (usedAfter used s) segments := by
  constructor
  · rintro ⟨hcandidates, hunused, honce⟩
    obtain ⟨hs, hrest⟩ := List.forall₂_cons.1 hcandidates
    have hpairwise := List.pairwise_cons.1 (List.pairwise_filterMap.1 honce)
    refine ⟨hs, hunused s List.mem_cons_self, hrest, fun s' hs' id hid hmem => ?_,
      List.pairwise_filterMap.2 hpairwise.2⟩
    rcases mem_usedAfter.1 hmem with htakes | hused
    · exact hpairwise.1 s' hs' id htakes id hid rfl
    · exact hunused s' (List.mem_cons_of_mem _ hs') id hid hused
  · rintro ⟨hs, hunused, hrest, hlater, honce⟩
    refine ⟨.cons hs hrest, fun s' hs' id hid hused => ?_,
      List.pairwise_filterMap.2 (List.pairwise_cons.2 ⟨?_, List.pairwise_filterMap.1 honce⟩)⟩
    · rcases List.mem_cons.1 hs' with rfl | hs'
      · exact hunused id hid hused
      · exact hlater s' hs' id hid (mem_usedAfter.2 (.inr hused))
    · rintro s' hs' id hid id' hid' rfl
      exact hlater s' hs' id hid' (mem_usedAfter.2 (.inl hid))

theorem choice_nil : Choice [] used segments ↔ segments = [] := by
  constructor
  · rintro ⟨hcandidates, -, -⟩
    cases hcandidates
    rfl
  · rintro rfl
    exact ⟨.nil, nofun, List.nodup_nil⟩

/-- A candidate passes when the sentence and the rest can be served with it. -/
theorem passes_iff : ((s.isStatic || decide (s.materialId ∉ used)) &&
      hasCompleteAssignment rest (usedAfter used s)) = true ↔
    (∀ id ∈ s.takes, id ∉ used) ∧ ∃ segments, Choice rest (usedAfter used s) segments := by
  rw [Bool.and_eq_true, hasCompleteAssignment_iff]
  unfold FittingMaterialSegment.takes
  cases hstatic : s.isStatic <;> simp

theorem choose_none (h : choose p rest used = none) : ¬∃ segments, Choice (p :: rest) used segments := by
  rintro ⟨segments, hchoice⟩
  cases segments with
  | nil => cases hchoice.candidates
  | cons s segments =>
    obtain ⟨hs, hunused, hrest⟩ := choice_cons.1 hchoice
    exact List.find?_eq_none.1 h s hs (passes_iff.2 ⟨hunused, segments, hrest⟩)

/-- The candidate chosen leaves the rest a choice, and stands before every other that does. -/
theorem choose_some {chosen : FittingMaterialSegment} (h : choose p rest used = some chosen) :
    chosen ∈ p.candidates ∧ (∀ id ∈ chosen.takes, id ∉ used) ∧
      (∃ segments, Choice rest (usedAfter used chosen) segments) ∧
      ∀ s segments, Choice (p :: rest) used (s :: segments) →
        position p chosen < position p s ∨ chosen = s := by
  obtain ⟨hpasses, before, after, hsplit, hbefore⟩ := List.find?_eq_some_iff_append.1 h
  have hchosen : chosen ∈ p.candidates := by
    rw [hsplit]
    exact List.mem_append_right _ List.mem_cons_self
  obtain ⟨hunused, hrest⟩ := passes_iff.1 hpasses
  refine ⟨hchosen, hunused, hrest, fun s segments hchoice => ?_⟩
  obtain ⟨hs, hsunused, hsrest⟩ := choice_cons.1 hchoice
  have hids := p.ids
  unfold position
  rw [hsplit, List.map_append, List.map_cons] at hids ⊢
  obtain ⟨-, hafter, hapart⟩ := List.nodup_append.1 hids
  have hnot : chosen.materialId ∉ before.map (·.materialId) := fun hmem =>
    hapart _ hmem _ List.mem_cons_self rfl
  rw [hsplit] at hs
  rcases List.mem_append.1 hs with hs | hs
  · have hfalse := hbefore s hs
    rw [passes_iff.2 ⟨hsunused, segments, hsrest⟩] at hfalse
    cases hfalse
  · rcases List.mem_cons.1 hs with rfl | hs
    · exact .inr rfl
    · left
      have hmem : s.materialId ∈ after.map (·.materialId) := List.mem_map_of_mem hs
      have hsnot : s.materialId ∉ before.map (·.materialId) := fun hbad =>
        hapart _ hbad _ (List.mem_cons_of_mem _ hmem) rfl
      have hne : chosen.materialId ≠ s.materialId := fun heq =>
        (List.nodup_cons.1 hafter).1 (heq ▸ hmem)
      rw [List.idxOf_append_of_notMem hnot, List.idxOf_append_of_notMem hsnot, List.idxOf_cons_self,
        List.idxOf_cons_ne _ hne]
      omega

/-- The sentence as it is selected, its texts unchanged. -/
def Selected (p : NarratedParagraphDraft) (n : SelectedNarratedParagraphDraft) : Prop :=
  n.sequence = p.sequence ∧ n.captionText = p.captionText ∧
    n.narrationRelativePath = p.narrationRelativePath ∧ n.durationMs = p.durationMs

theorem make_selected (hs : s ∈ p.candidates) :
    ∃ n, SelectedNarratedParagraphDraft.make p s = .ok n ∧ Selected p n ∧ n.segment = s :=
  ⟨_, dif_pos (p.fits s hs), ⟨rfl, rfl, rfl, rfl⟩, rfl⟩

/-- The sentences are served when they can be, by the first choice of all. -/
theorem select_spec (paragraphs : List NarratedParagraphDraft) (used : List Uuid) :
    match select paragraphs used with
    | .ok selected => List.Forall₂ Selected paragraphs selected ∧
        Choice paragraphs used (selected.map (·.segment)) ∧
        ∀ segments, Choice paragraphs used segments →
          Precedes paragraphs (selected.map (·.segment)) segments
    | .error e => e = .failure .insufficientMaterials ∧ ¬∃ segments, Choice paragraphs used segments := by
  induction paragraphs generalizing used with
  | nil => exact ⟨.nil, choice_nil.2 rfl, fun _ _ => trivial⟩
  | cons p rest ih =>
    rw [select]
    cases hchoose : choose p rest used with
    | none => exact ⟨rfl, choose_none hchoose⟩
    | some chosen =>
      obtain ⟨hmem, hunused, hrest, hfirst⟩ := choose_some hchoose
      obtain ⟨n, hmake, hselected, rfl⟩ := make_selected hmem
      have hlater := ih (usedAfter used n.segment)
      simp only [hmake, bind, Except.bind]
      cases hselect : select rest (usedAfter used n.segment) with
      | error e =>
        rw [hselect] at hlater
        exact absurd hrest hlater.2
      | ok others =>
        rw [hselect] at hlater
        obtain ⟨hothers, hchoice, hprecedes⟩ := hlater
        refine ⟨.cons hselected hothers, choice_cons.2 ⟨hmem, hunused, hchoice⟩,
          fun segments hsegments => ?_⟩
        cases segments with
        | nil => trivial
        | cons s segments =>
          rcases hfirst s segments hsegments with hlt | rfl
          · exact .inl hlt
          · exact .inr ⟨rfl, hprecedes segments (choice_cons.1 hsegments).2.2⟩

/-! ## Resolving a draft -/

/-- The resolved draft: the original speech as it was, and the first choice of all. -/
structure Resolves (draft : SpeechAwareParagraphDraft) (r : ResolvedSpeechAwareParagraphDraft) :
    Prop where
  originals : r.originalSpeechParagraphs = draft.originalSpeechParagraphs
  texts : List.Forall₂ Selected draft.narratedParagraphs r.narratedParagraphs
  choice : Choice draft.narratedParagraphs [] (r.narratedParagraphs.map (·.segment))
  first : ∀ segments, Choice draft.narratedParagraphs [] segments →
    Precedes draft.narratedParagraphs (r.narratedParagraphs.map (·.segment)) segments

/-- The paragraphs of a draft, those with original speech and those that are narrated. -/
def paragraphCount (draft : SpeechAwareParagraphDraft) : Nat :=
  draft.originalSpeechParagraphs.length + draft.narratedParagraphs.length

theorem firstFailure_none (h : ∀ p ∈ paragraphs, p.candidates ≠ []) :
    firstFailure paragraphs = none := by
  induction paragraphs with
  | nil => rfl
  | cons p rest ih =>
    have hne := h p List.mem_cons_self
    have hqualified : p.qualifiedMaterialIds ≠ [] := by
      obtain ⟨c, hc⟩ := List.exists_mem_of_ne_nil _ hne
      exact List.ne_nil_of_mem (p.qualified c hc)
    rw [firstFailure, if_neg hqualified, if_neg hne]
    exact ih fun p' hp' => h p' (List.mem_cons_of_mem _ hp')

theorem taken_eq (selected : List SelectedNarratedParagraphDraft) :
    (selected.filter fun p => !p.segment.isStatic).map (·.segment.materialId) =
      (selected.map (·.segment)).filterMap (·.takes) := by
  induction selected with
  | nil => rfl
  | cons n selected ih =>
    rw [List.map_cons, List.filterMap_cons, ← ih]
    unfold FittingMaterialSegment.takes
    cases hstatic : n.segment.isStatic <;> simp [hstatic]

theorem forall₂_segments {selected : List SelectedNarratedParagraphDraft}
    (h : Choice paragraphs used (selected.map (·.segment))) :
    ∀ n ∈ selected, ∃ p ∈ paragraphs, n.segment ∈ p.candidates := by
  intro n hn
  exact forall₂_mem_right h.candidates (List.mem_map_of_mem hn)

/-- The constructor takes a choice when the paragraphs are no more than it allows. -/
theorem make_resolved {draft : SpeechAwareParagraphDraft}
    {selected : List SelectedNarratedParagraphDraft}
    (htexts : List.Forall₂ Selected draft.narratedParagraphs selected)
    (hchoice : Choice draft.narratedParagraphs [] (selected.map (·.segment)))
    (hfirst : ∀ segments, Choice draft.narratedParagraphs [] segments →
      Precedes draft.narratedParagraphs (selected.map (·.segment)) segments) :
    match ResolvedSpeechAwareParagraphDraft.make draft.originalSpeechParagraphs selected with
    | .ok r => paragraphCount draft ≤ maxLocalEditingSemanticMaterials ∧ Resolves draft r
    | .error e => e = .rejected ∧ maxLocalEditingSemanticMaterials < paragraphCount draft := by
  have hlength := htexts.length_eq
  unfold ResolvedSpeechAwareParagraphDraft.make
  by_cases hcount : paragraphCount draft ≤ maxLocalEditingSemanticMaterials
  · have hsequences : selected.map (·.sequence) = List.range' 1 selected.length := by
      rw [map_eq_of_forall₂ htexts (f := (·.sequence)) fun _ _ hs => hs.1, draft.sequences, hlength]
    have honce : ((selected.filter fun p => !p.segment.isStatic).map
        (·.segment.materialId)).Nodup := by
      rw [taken_eq]
      exact hchoice.once
    have hdisjoint : ∀ n ∈ selected, ∀ o ∈ draft.originalSpeechParagraphs,
        n.segment.materialId ≠ o.materialId := by
      intro n hn o ho heq
      obtain ⟨p, hp, hmem⟩ := forall₂_segments hchoice n hn
      have hsilent := draft.qualified p hp _ (p.qualified _ hmem)
      rw [heq] at hsilent
      exact draft.disjoint o ho hsilent
    have hnonempty : draft.originalSpeechParagraphs ≠ [] ∨ selected ≠ [] := by
      refine draft.nonempty.imp_right fun hne hnil => hne ?_
      rw [hnil, List.forall₂_nil_right_iff] at htexts
      exact htexts
    rw [dif_pos ⟨draft.originals, by unfold paragraphCount at hcount; omega, hsequences, honce,
      hdisjoint, hnonempty⟩]
    exact ⟨hcount, rfl, htexts, hchoice, hfirst⟩
  · rw [dif_neg]
    · exact ⟨rfl, by omega⟩
    · rintro ⟨-, hle, -⟩
      unfold paragraphCount at hcount
      omega

/-- **Three ways.** A draft whose sentences all have candidates is resolved by the first choice;
or there is none; or there is one, and the draft has more paragraphs than a resolved draft
may have. -/
theorem resolve_cases {draft : SpeechAwareParagraphDraft}
    (h : ∀ p ∈ draft.narratedParagraphs, p.candidates ≠ []) :
    match resolveSpeechAwareParagraphDraft draft with
    | .ok r => paragraphCount draft ≤ maxLocalEditingSemanticMaterials ∧ Resolves draft r
    | .error (.failure code) => code = .insufficientMaterials ∧
        ¬∃ segments, Choice draft.narratedParagraphs [] segments
    | .error .rejected => maxLocalEditingSemanticMaterials < paragraphCount draft ∧
        ∃ segments, Choice draft.narratedParagraphs [] segments := by
  unfold resolveSpeechAwareParagraphDraft
  by_cases hempty : draft.narratedParagraphs = []
  · rw [if_pos hempty]
    have hmake := @make_resolved _ draft [] (by rw [hempty]; exact .nil)
      (by rw [hempty]; exact choice_nil.2 rfl) (fun segments _ => by rw [hempty]; trivial)
    cases hrun : ResolvedSpeechAwareParagraphDraft.make draft.originalSpeechParagraphs [] with
    | ok r =>
      rw [hrun] at hmake
      exact hmake
    | error e =>
      rw [hrun] at hmake
      obtain ⟨rfl, hcount⟩ := hmake
      exact ⟨hcount, [], by rw [hempty]; exact choice_nil.2 rfl⟩
  · rw [if_neg hempty, firstFailure_none h]
    have hselect := select_spec draft.narratedParagraphs []
    cases hrun : select draft.narratedParagraphs [] with
    | error e =>
      rw [hrun] at hselect
      obtain ⟨rfl, hnone⟩ := hselect
      exact ⟨rfl, hnone⟩
    | ok selected =>
      rw [hrun] at hselect
      obtain ⟨htexts, hchoice, hfirst⟩ := hselect
      have hmake := make_resolved htexts hchoice hfirst
      show match ResolvedSpeechAwareParagraphDraft.make draft.originalSpeechParagraphs selected with
        | .ok r => _
        | .error (.failure code) => _
        | .error .rejected => _
      cases hresolved : ResolvedSpeechAwareParagraphDraft.make draft.originalSpeechParagraphs
          selected with
      | ok r =>
        rw [hresolved] at hmake
        exact hmake
      | error e =>
        rw [hresolved] at hmake
        obtain ⟨rfl, hcount⟩ := hmake
        exact ⟨hcount, _, hchoice⟩

end

end AutomationTool.Executor.SmartEdit
