import AutomationTool.Executor.SpeechParagraphs

/-!
# A still image shown by many sentences raises instead of resolving

Behaviour: a script has up to 128 sentences (`MAX_LOCAL_EDITING_SCRIPT_SENTENCES`), a still
image may be shown by any number of them, and `resolve_speech_aware_paragraph_draft`
(speech_paragraph_draft.py:564-613) finds their choice.
`ResolvedSpeechAwareParagraphDraft` (:338-384) refuses more than 32 paragraphs, the bound on
materials, so the constructor raises `SpeechParagraphDraftRejected`.

Evidence: the docstring of the function, "Resolve every silent sentence uniquely, or return
one fixed failure".

Counterexample: 33 sentences and one still image.

* `right_iff`: a draft whose sentences all have candidates is resolved by the first choice, or
  answered with INSUFFICIENT_MATERIALS, exactly when its paragraphs are at most 32 or there
  is no choice.
-/
namespace AutomationTool.Bugs.ManyStills

open Protocol Editing Executor.SmartEdit

section

variable [UnicodeData]

/-- Resolving returns: the first choice of all, or the failure where there is none. -/
def Right (draft : SpeechAwareParagraphDraft) : Prop :=
  match resolveSpeechAwareParagraphDraft draft with
  | .ok r => Resolves draft r
  | .error (.failure code) => code = .insufficientMaterials ∧
      ¬∃ segments, Choice draft.narratedParagraphs [] segments
  | .error .rejected => False

/-- **When it returns.** For every draft whose sentences all have candidates. -/
theorem right_iff (draft : SpeechAwareParagraphDraft)
    (h : ∀ p ∈ draft.narratedParagraphs, p.candidates ≠ []) :
    Right draft ↔ paragraphCount draft ≤ maxLocalEditingSemanticMaterials ∨
      ¬∃ segments, Choice draft.narratedParagraphs [] segments := by
  have hcases := resolve_cases h
  unfold Right
  cases hrun : resolveSpeechAwareParagraphDraft draft with
  | ok r =>
    rw [hrun] at hcases
    exact ⟨fun _ => .inl hcases.1, fun _ => hcases.2⟩
  | error e =>
    cases e with
    | failure code =>
      rw [hrun] at hcases
      exact ⟨fun _ => .inr hcases.2, fun _ => hcases⟩
    | rejected =>
      rw [hrun] at hcases
      obtain ⟨hcount, hchoice⟩ := hcases
      refine ⟨False.elim, fun hbound => ?_⟩
      rcases hbound with hle | hnone
      · omega
      · exact hnone hchoice

end

namespace Concrete

/-- The ASCII part of the character database. -/
scoped instance ascii : UnicodeData where
  isSpace c := c.isWhitespace
  isOther c := c.val < 32 ∨ c.val = 127

/-- A material id of version 4. -/
def still : Uuid := 0x00000000000040008000000000000001

def stillSegment : FittingMaterialSegment where
  materialId := still
  score := 90
  durationMs := 1000
  sourceInMs := none
  sourceOutMs := none
  canonical := by decide +kernel
  score_ge := (by decide : 90 ≥ localEditingSemanticScoreThreshold)
  score_le := Nat.le_add_left _ _
  duration_pos := Nat.succ_pos _
  duration_le := by decide
  ends := rfl
  window := nofun

/-- `voiceover/sentence-0001.wav` and so on. -/
def narrationPath (n : Nat) : List Char :=
  "voiceover/sentence-00".toList ++ [Char.ofNat (48 + n / 10), Char.ofNat (48 + n % 10)] ++
    ".wav".toList

/-- The `n`-th sentence, which only the still image fits. -/
def sentence (n : Nat) (h : n ∈ List.range' 1 40) : NarratedParagraphDraft where
  sequence := n
  captionText := ['a']
  narrationRelativePath := narrationPath n
  durationMs := 1000
  qualifiedMaterialIds := [still]
  candidates := [stillSegment]
  sequence_pos := (List.mem_range'_1.1 h).1
  sequence_le := by
    have hlt := (List.mem_range'_1.1 h).2
    simp only [maxLocalEditingScriptSentences]
    omega
  caption := by decide
  path := by
    have hall : ∀ n ∈ List.range' 1 40, validNarrationPath (narrationPath n) n = true := by
      decide +kernel
    exact hall n h
  duration_pos := Nat.succ_pos _
  duration_le := by decide
  qualified_le := by decide
  canonical := by
    intro id hid
    rw [List.mem_singleton.1 hid]
    decide +kernel
  qualified_nodup := List.nodup_singleton _
  candidates_le := by decide
  fits := by
    intro c hc
    rw [List.mem_singleton.1 hc]
    rfl
  ids := List.nodup_singleton _
  qualified := by
    intro c hc
    rw [List.mem_singleton.1 hc]
    exact List.mem_singleton_self _
  order := .singleton _

/-- The first `count` sentences. -/
def sentences (count : Nat) (h : count ≤ 40) : List NarratedParagraphDraft :=
  (List.range' 1 count).attach.map fun n =>
    sentence n.1 (List.range'_sublist_right.2 h |>.subset n.2)

/-- One still image for all of them. -/
def slideshow (count : Nat) (hpos : 0 < count) (h : count ≤ 40) : SpeechAwareParagraphDraft where
  originalSpeechParagraphs := []
  silentMaterialIds := [still]
  narratedParagraphs := sentences count h
  originals_le := by decide
  originals := List.nodup_nil
  silent_canonical := by
    intro id hid
    rw [List.mem_singleton.1 hid]
    decide +kernel
  silent_nodup := List.nodup_singleton _
  materials_le := by decide
  narrated_le := by
    simp only [sentences, List.length_map, List.length_attach, List.length_range',
      maxLocalEditingScriptSentences]
    omega
  sequences := by
    simp only [sentences, List.map_map, List.length_map, List.length_attach, List.length_range']
    exact List.attach_map_subtype_val _
  silent_narrated := by
    simp [sentences]
    omega
  qualified := by
    intro p hp id hid
    obtain ⟨n, -, rfl⟩ := List.mem_map.1 hp
    exact hid
  disjoint := nofun
  nonempty := by
    right
    simp [sentences]
    omega

theorem slideshow_candidates {count : Nat} {hpos : 0 < count} {h : count ≤ 40} :
    ∀ p ∈ (slideshow count hpos h).narratedParagraphs, p.candidates ≠ [] := by
  intro p hp
  obtain ⟨n, -, rfl⟩ := List.mem_map.1 hp
  exact List.cons_ne_nil _ _

/-- Two sentences are within the bound. -/
theorem two_resolved : Right (slideshow 2 (by decide) (by decide)) :=
  (right_iff (slideshow 2 (by decide) (by decide)) slideshow_candidates).2 (.inl (by decide))

/-- Every sentence shows the image. -/
theorem choice_still {paragraphs : List NarratedParagraphDraft}
    (h : ∀ p ∈ paragraphs, stillSegment ∈ p.candidates) :
    Choice paragraphs [] (paragraphs.map fun _ => stillSegment) := by
  refine ⟨?_, fun s _ => fun _ _ => List.not_mem_nil, ?_⟩
  · induction paragraphs with
    | nil => exact .nil
    | cons p rest ih =>
      exact .cons (h p List.mem_cons_self) (ih fun p' hp' => h p' (List.mem_cons_of_mem _ hp'))
  · rw [List.filterMap_map]
    have htakes : stillSegment.takes = none := rfl
    simp [htakes]

/-- More sentences than a resolved draft has paragraphs cannot be resolved. -/
theorem slideshow_rejected {count : Nat} {hpos : 0 < count} {h : count ≤ 40}
    (hmany : maxLocalEditingSemanticMaterials < count) : ¬Right (slideshow count hpos h) := by
  have hcases := resolve_cases (@slideshow_candidates count hpos h)
  have hcount : paragraphCount (slideshow count hpos h) = count := by
    simp [paragraphCount, slideshow, sentences]
  have hchoice : Choice (slideshow count hpos h).narratedParagraphs [] _ := choice_still fun p hp => by
    obtain ⟨n, -, rfl⟩ := List.mem_map.1 hp
    exact List.mem_singleton_self _
  unfold Right
  rw [hcount] at hcases
  cases hrun : resolveSpeechAwareParagraphDraft (slideshow count hpos h) with
  | ok r =>
    rw [hrun] at hcases
    exact absurd hcases.1 (Nat.not_le.2 hmany)
  | error e =>
    rw [hrun] at hcases
    cases e with
    | failure code => exact absurd ⟨_, hchoice⟩ hcases.2
    | rejected => exact id

theorem many_rejected : ¬∀ draft : SpeechAwareParagraphDraft,
    (∀ p ∈ draft.narratedParagraphs, p.candidates ≠ []) → Right draft :=
  fun hall => slideshow_rejected (by decide)
    (hall (slideshow 33 (by decide) (by decide)) slideshow_candidates)

end Concrete

end AutomationTool.Bugs.ManyStills
