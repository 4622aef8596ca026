import AutomationTool.Core.Windows
import AutomationTool.Executor.SmartEditGeneration

/-!
# Source windows for the sentences of a script

A sentence needs a picture as long as its narration: a still image, or a window of a video
that no cut of the film and no gap of its decodable intervals breaks. The first window of
every qualified material is taken.

* `earliestFittingWindow_earliest`: the window found is the earliest of all, and none is
  found only when there is none.
* `selectFittingSegments_spec`: a selection is refused exactly when what it is made from does
  not belong together; otherwise it has the windows of the qualified materials that have one,
  in the order of their rank, and nothing else.
-/
namespace AutomationTool.Executor.SmartEdit

open Editing Windows

/-- mirrors local_editing.py:18 -/
def maxLocalEditingShotBoundaries : Nat := 4096

/-- mirrors segment_selection.py:38-54 -/
structure VerifiedDecodableInterval where
  startMs : Nat
  endMs : Nat
  start_lt : startMs < endMs
  end_le : endMs ≤ maxLocalEditingMaterialDurationMs

def VerifiedDecodableInterval.Before (a b : VerifiedDecodableInterval) : Prop :=
  a.endMs < b.startMs

/-- mirrors segment_selection.py:57-86 -/
structure VerifiedDecodableMaterial where
  materialId : Uuid
  contentDigest : List Char
  intervals : List VerifiedDecodableInterval
  canonical : isCanonicalMaterialId materialId = true
  digest : sha256Pattern contentDigest = true
  length_le : intervals.length ≤ maxLocalEditingShotBoundaries + 1
  apart : intervals.IsChain VerifiedDecodableInterval.Before

/-- mirrors segment_selection.py:89-103 -/
structure SegmentSelectionSlot where
  sequence : Nat
  durationMs : Nat
  sequence_pos : 1 ≤ sequence
  sequence_le : sequence ≤ maxLocalEditingScriptSentences
  duration_pos : 1 ≤ durationMs
  duration_le : durationMs ≤ maxLocalEditingTimelineDurationMs

/-- mirrors local_editing.py:262-308 -/
structure SegmentSelectionMaterial where
  materialId : Uuid
  kind : MaterialKind
  durationMs : Option Nat
  contentDigest : List Char
  shotBoundariesMs : List Nat
  canonical : isCanonicalMaterialId materialId = true
  image_duration : kind = .image → durationMs = none
  duration : kind ≠ .image → ∃ d, durationMs = some d ∧ 1 ≤ d ∧
    d ≤ maxLocalEditingMaterialDurationMs
  digest : sha256Pattern contentDigest = true
  length_le : shotBoundariesMs.length ≤ maxLocalEditingShotBoundaries
  boundaries_kind : kind ≠ .video → shotBoundariesMs = []
  increasing : shotBoundariesMs.IsChain (· < ·)
  boundaries_lt : ∀ b ∈ shotBoundariesMs, b < maxLocalEditingMaterialDurationMs

/-- mirrors local_editing.py:311-329 -/
structure SegmentSelectionCandidateScore where
  materialId : Uuid
  score : Nat
  qualified : Bool
  canonical : isCanonicalMaterialId materialId = true
  score_le : score ≤ 100
  threshold : qualified = decide (localEditingSemanticScoreThreshold ≤ score)

/-- mirrors local_editing.py:332-366 -/
structure SegmentSelectionSentenceMatches where
  sequence : Nat
  candidates : List SegmentSelectionCandidateScore
  sequence_pos : 1 ≤ sequence
  sequence_le : sequence ≤ maxLocalEditingScriptSentences
  nonempty : candidates ≠ []
  length_le : candidates.length ≤ maxLocalEditingSemanticMaterials
  ids : (candidates.map (·.materialId)).Nodup
  descending : candidates.IsChain fun earlier later => later.score ≤ earlier.score

/-- mirrors segment_selection.py:134-161 -/
structure SegmentSelectionCandidates where
  sequence : Nat
  durationMs : Nat
  segments : List FittingMaterialSegment
  sequence_pos : 1 ≤ sequence
  sequence_le : sequence ≤ maxLocalEditingScriptSentences
  duration_pos : 1 ≤ durationMs
  duration_le : durationMs ≤ maxLocalEditingTimelineDurationMs
  length_le : segments.length ≤ maxLocalEditingSemanticMaterials
  durations : ∀ s ∈ segments, s.durationMs = durationMs
  ids : (segments.map (·.materialId)).Nodup
  descending : segments.IsChain fun earlier later => later.score ≤ earlier.score

/-! ## The earliest window -/

/-- The shots that begin at `starts`; each ends where the next begins, the last where a
material may end at most. -/
def shots : List Nat → List Stretch
  | [] => []
  | start :: starts =>
    ⟨start, starts.head?.getD maxLocalEditingMaterialDurationMs⟩ :: shots starts

def VerifiedDecodableInterval.stretch (i : VerifiedDecodableInterval) : Stretch := ⟨i.startMs, i.endMs⟩

/-- mirrors segment_selection.py:164-197; its loop is
`Windows.sweep` -/
def earliestFittingWindow (material : SegmentSelectionMaterial)
    (evidence : VerifiedDecodableMaterial) (durationMs : Nat) : Option (Nat × Nat) :=
  match material.shotBoundariesMs with
  | [] =>
    (evidence.intervals.find? fun i => i.startMs + durationMs ≤ i.endMs).map fun i =>
      (i.startMs, i.startMs + durationMs)
  | first :: rest =>
    let shotStarts := if first ≠ 0 then 0 :: first :: rest else first :: rest
    (sweep durationMs (shots shotStarts) (evidence.intervals.map (·.stretch))).map fun start =>
      (start, start + durationMs)

/-- No cut and no gap breaks the window. -/
def FitsAt (material : SegmentSelectionMaterial) (evidence : VerifiedDecodableMaterial)
    (durationMs start : Nat) : Prop :=
  (∀ b ∈ material.shotBoundariesMs, b ≤ start ∨ start + durationMs ≤ b) ∧
    ∃ i ∈ evidence.intervals, i.startMs ≤ start ∧ start + durationMs ≤ i.endMs

theorem lo_mem_of_mem_shots {starts : List Nat} {x : Stretch} (h : x ∈ shots starts) :
    x.lo ∈ starts := by
  induction starts with
  | nil => cases h
  | cons start starts ih =>
    rcases List.mem_cons.1 h with rfl | h
    · exact List.mem_cons_self
    · exact List.mem_cons_of_mem _ (ih h)

theorem shots_ordered {starts : List Nat} (h : starts.Pairwise (· < ·)) :
    Ordered (shots starts) := by
  induction starts with
  | nil => exact .nil
  | cons start starts ih =>
    obtain ⟨hstart, hstarts⟩ := List.pairwise_cons.1 h
    refine List.pairwise_cons.2 ⟨fun y hy => ?_, ih hstarts⟩
    have hmem := lo_mem_of_mem_shots hy
    refine ⟨Nat.le_of_lt (hstart _ hmem), ?_⟩
    cases starts with
    | nil => cases hmem
    | cons next rest =>
      show next ≤ y.lo
      rcases List.mem_cons.1 hmem with heq | hrest
      · exact Nat.le_of_eq heq.symm
      · exact Nat.le_of_lt ((List.pairwise_cons.1 hstarts).1 _ hrest)

/-- A window from the first shot on lies in one of the shots when no start breaks it. -/
theorem within_shots {start s d : Nat} {starts : List Nat}
    (h : (start :: starts).Pairwise (· < ·)) (hlt : ∀ b ∈ start :: starts,
      b < maxLocalEditingMaterialDurationMs) :
    Within (shots (start :: starts)) s d ↔ start ≤ s ∧
      s + d ≤ maxLocalEditingMaterialDurationMs ∧ ∀ b ∈ starts, b ≤ s ∨ s + d ≤ b := by
  induction starts generalizing start with
  | nil =>
    rw [shots, within_cons]
    constructor
    · rintro (⟨hlo, hhi⟩ | hnil)
      · exact ⟨hlo, hhi, nofun⟩
      · exact absurd hnil not_within_nil
    · exact fun hs => .inl ⟨hs.1, hs.2.1⟩
  | cons next rest ih =>
    obtain ⟨hstart, hrest⟩ := List.pairwise_cons.1 h
    have hnext := hstart next List.mem_cons_self
    have hle := hlt next (List.mem_cons_of_mem _ List.mem_cons_self)
    have hafter := (List.pairwise_cons.1 hrest).1
    rw [shots, within_cons, ih hrest fun b hb => hlt b (List.mem_cons_of_mem _ hb)]
    constructor
    · rintro (⟨hlo, hhi⟩ | ⟨hs, hend, hb⟩)
      · have hhi : s + d ≤ next := hhi
        refine ⟨hlo, by omega, fun b hb => .inr ?_⟩
        rcases List.mem_cons.1 hb with rfl | hb
        · exact hhi
        · have hlater := hafter b hb
          omega
      · refine ⟨by omega, hend, fun b hmem => ?_⟩
        rcases List.mem_cons.1 hmem with rfl | hmem
        · exact .inl hs
        · exact hb b hmem
    · rintro ⟨hs, hend, hb⟩
      rcases hb next List.mem_cons_self with hpast | hbefore
      · exact .inr ⟨hpast, hend, fun b hmem => hb b (List.mem_cons_of_mem _ hmem)⟩
      · exact .inl ⟨hs, hbefore⟩

theorem VerifiedDecodableMaterial.ordered (evidence : VerifiedDecodableMaterial) :
    Ordered (evidence.intervals.map (·.stretch)) := by
  refine List.pairwise_map.2 ?_
  have htrans : Trans VerifiedDecodableInterval.Before VerifiedDecodableInterval.Before
      VerifiedDecodableInterval.Before :=
    ⟨fun {a b c} hab hbc => Nat.lt_trans (Nat.lt_trans hab b.start_lt) hbc⟩
  refine (List.IsChain.pairwise evidence.apart).imp fun {a b} hab => ?_
  have ha := a.start_lt
  exact ⟨Nat.le_of_lt (Nat.lt_trans ha hab), Nat.le_of_lt hab⟩

theorem within_stretches {evidence : VerifiedDecodableMaterial} {s d : Nat} :
    Within (evidence.intervals.map (·.stretch)) s d ↔
      ∃ i ∈ evidence.intervals, i.startMs ≤ s ∧ s + d ≤ i.endMs := by
  unfold Within
  constructor
  · rintro ⟨x, hx, hhold⟩
    obtain ⟨i, hi, rfl⟩ := List.mem_map.1 hx
    exact ⟨i, hi, hhold⟩
  · rintro ⟨i, hi, hhold⟩
    exact ⟨i.stretch, List.mem_map_of_mem hi, hhold⟩

/-- Without cuts the first interval that is long enough has the earliest window. -/
theorem find_earliest {d : Nat} {intervals : List VerifiedDecodableInterval}
    (h : Ordered (intervals.map (·.stretch))) :
    Earliest (fun s => ∃ i ∈ intervals, i.startMs ≤ s ∧ s + d ≤ i.endMs)
      ((intervals.find? fun i => i.startMs + d ≤ i.endMs).map (·.startMs)) := by
  induction intervals with
  | nil =>
    rintro t ⟨i, hi, -⟩
    cases hi
  | cons i intervals ih =>
    rw [List.find?_cons]
    by_cases hfits : i.startMs + d ≤ i.endMs
    · simp only [hfits, decide_true, Option.map_some]
      refine ⟨⟨i, List.mem_cons_self, Nat.le_refl _, hfits⟩, fun t ⟨j, hj, hlo, _⟩ => ?_⟩
      rcases List.mem_cons.1 hj with rfl | hj
      · exact hlo
      · exact Nat.le_trans ((List.pairwise_cons.1 h).1 j.stretch (List.mem_map_of_mem hj)).1 hlo
    · simp only [hfits, decide_false]
      refine (ih h.tail).congr fun t => ⟨fun ⟨j, hj, hlo, hhi⟩ => ?_, fun ⟨j, hj, hhold⟩ => ?_⟩
      · rcases List.mem_cons.1 hj with rfl | hj
        · omega
        · exact ⟨j, hj, hlo, hhi⟩
      · exact ⟨j, List.mem_cons_of_mem _ hj, hhold⟩

/-- **The earliest window.** For every material and its decodable intervals: the window found
is as long as required and no other that fits begins before it; when none is found, none
fits anywhere. -/
theorem earliestFittingWindow_earliest (material : SegmentSelectionMaterial)
    (evidence : VerifiedDecodableMaterial) {durationMs : Nat} (h : 1 ≤ durationMs) :
    ∃ r, Earliest (FitsAt material evidence durationMs) r ∧
      earliestFittingWindow material evidence durationMs =
        r.map fun start => (start, start + durationMs) := by
  unfold earliestFittingWindow
  split
  · rename_i hnone
    refine ⟨(evidence.intervals.find? fun i => i.startMs + durationMs ≤ i.endMs).map (·.startMs),
      (find_earliest evidence.ordered).congr fun t => ?_, by rw [Option.map_map]; rfl⟩
    unfold FitsAt
    rw [hnone]
    simp
  · rename_i first rest hboundaries
    have hpairwise : (first :: rest).Pairwise (· < ·) := by
      rw [← hboundaries]
      exact List.isChain_iff_pairwise.1 material.increasing
    have hlt : ∀ b ∈ first :: rest, b < maxLocalEditingMaterialDurationMs := by
      rw [← hboundaries]
      exact material.boundaries_lt
    have hend : ∀ t, (∃ i ∈ evidence.intervals, i.startMs ≤ t ∧ t + durationMs ≤ i.endMs) →
        t + durationMs ≤ maxLocalEditingMaterialDurationMs := by
      rintro t ⟨i, -, -, hi⟩
      exact Nat.le_trans hi i.end_le
    -- the first shot begins at 0, said or not
    by_cases hzero : first = 0
    · subst hzero
      refine ⟨_, (sweep_earliest h (shots_ordered hpairwise) evidence.ordered).congr fun t => ?_,
        by rw [if_neg (not_not.2 rfl)]⟩
      unfold FitsAt
      rw [hboundaries, within_shots hpairwise hlt, within_stretches]
      constructor
      · rintro ⟨hcuts, hin⟩
        exact ⟨⟨Nat.zero_le _, hend t hin, fun b hb => hcuts b (List.mem_cons_of_mem _ hb)⟩, hin⟩
      · rintro ⟨⟨-, -, hcuts⟩, hin⟩
        refine ⟨fun b hb => ?_, hin⟩
        rcases List.mem_cons.1 hb with rfl | hb
        · exact .inl (Nat.zero_le _)
        · exact hcuts b hb
    · have hfrom : (0 :: first :: rest).Pairwise (· < ·) := by
        refine List.pairwise_cons.2 ⟨fun b hb => ?_, hpairwise⟩
        rcases List.mem_cons.1 hb with rfl | hb
        · exact Nat.pos_of_ne_zero hzero
        · exact Nat.lt_of_le_of_lt (Nat.zero_le _) ((List.pairwise_cons.1 hpairwise).1 b hb)
      have hfromlt : ∀ b ∈ 0 :: first :: rest, b < maxLocalEditingMaterialDurationMs := by
        intro b hb
        rcases List.mem_cons.1 hb with rfl | hb
        · decide
        · exact hlt b hb
      refine ⟨_, (sweep_earliest h (shots_ordered hfrom) evidence.ordered).congr fun t => ?_,
        by rw [if_pos hzero]⟩
      unfold FitsAt
      rw [hboundaries, within_shots hfrom hfromlt, within_stretches]
      constructor
      · rintro ⟨hcuts, hin⟩
        exact ⟨⟨Nat.zero_le _, hend t hin, hcuts⟩, hin⟩
      · rintro ⟨⟨-, -, hcuts⟩, hin⟩
        exact ⟨hcuts, hin⟩

/-! ## The segments of a sentence -/

/-- Where a material stands among the materials. -/
def materialIndex (materials : List SegmentSelectionMaterial) (id : Uuid) : Nat :=
  (materials.map (·.materialId)).idxOf id

/-- The order of the ranking: a higher score first, the first of the materials in a tie. -/
def RankedBefore (materials : List SegmentSelectionMaterial) (a b : Uuid × Nat) : Prop :=
  b.2 < a.2 ∨ a.2 = b.2 ∧ materialIndex materials a.1 ≤ materialIndex materials b.1

instance (materials : List SegmentSelectionMaterial) : DecidableRel (RankedBefore materials) :=
  fun _ _ => inferInstanceAs (Decidable (_ ∨ _))

def SegmentSelectionCandidateScore.key (c : SegmentSelectionCandidateScore) : Uuid × Nat :=
  (c.materialId, c.score)

def ranked (materials : List SegmentSelectionMaterial)
    (candidates : List SegmentSelectionCandidateScore) : List SegmentSelectionCandidateScore :=
  candidates.insertionSort fun a b => RankedBefore materials a.key b.key

/-- The constructor of a segment; `none` when it rejects. -/
def FittingMaterialSegment.make (materialId : Uuid) (score durationMs : Nat)
    (sourceWindow : Option (Nat × Nat)) : Option FittingMaterialSegment :=
  if h : isCanonicalMaterialId materialId = true ∧
      (localEditingSemanticScoreThreshold ≤ score ∧ score ≤ 100) ∧
      (1 ≤ durationMs ∧ durationMs ≤ maxLocalEditingTimelineDurationMs) ∧
      ∀ w ∈ sourceWindow, w.2 ≤ maxLocalEditingMaterialDurationMs ∧ w.2 = w.1 + durationMs then
    some {
      materialId := materialId
      score := score
      durationMs := durationMs
      sourceInMs := sourceWindow.map (·.1)
      sourceOutMs := sourceWindow.map (·.2)
      canonical := h.1
      score_ge := h.2.1.1
      score_le := h.2.1.2
      duration_pos := h.2.2.1.1
      duration_le := h.2.2.1.2
      ends := by cases sourceWindow <;> rfl
      window := by
        cases sourceWindow with
        | none => exact nofun
        | some w =>
          rintro _ ⟨⟩ _ ⟨⟩
          exact h.2.2.2 w rfl }
  else none

/-- The constructor of the candidates of a slot; `none` when it rejects. -/
def SegmentSelectionCandidates.make (slot : SegmentSelectionSlot)
    (segments : List FittingMaterialSegment) : Option SegmentSelectionCandidates :=
  if h : segments.length ≤ maxLocalEditingSemanticMaterials ∧
      (∀ s ∈ segments, s.durationMs = slot.durationMs) ∧
      (segments.map (·.materialId)).Nodup ∧
      segments.IsChain fun earlier later => later.score ≤ earlier.score then
    some {
      sequence := slot.sequence
      durationMs := slot.durationMs
      segments := segments
      sequence_pos := slot.sequence_pos
      sequence_le := slot.sequence_le
      duration_pos := slot.duration_pos
      duration_le := slot.duration_le
      length_le := h.1
      durations := h.2.1
      ids := h.2.2.1
      descending := h.2.2.2 }
  else none

section

variable (slot : SegmentSelectionSlot) (matching : SegmentSelectionSentenceMatches)
  (materials : List SegmentSelectionMaterial) (decodableMaterials : List VerifiedDecodableMaterial)

/-- The facts belong together.
mirrors segment_selection.py:207-248 -/
@[mk_iff]
structure Belongs : Prop where
  sequence : slot.sequence = matching.sequence
  nonempty : materials ≠ []
  length_le : materials.length ≤ maxLocalEditingSemanticMaterials
  ids : (materials.map (·.materialId)).Nodup
  kinds : ∀ m ∈ materials, m.kind = .video ∨ m.kind = .image
  evidenceIds : (decodableMaterials.map (·.materialId)).Nodup
  candidates_materials : ∀ c ∈ matching.candidates, ∃ m ∈ materials, m.materialId = c.materialId
  materials_candidates : ∀ m ∈ materials, ∃ c ∈ matching.candidates, c.materialId = m.materialId
  evidence_materials : ∀ e ∈ decodableMaterials, ∃ m ∈ materials,
    m.materialId = e.materialId ∧ m.kind = .video ∧ m.contentDigest = e.contentDigest
  materials_evidence : ∀ m ∈ materials, m.kind = .video →
    ∃ e ∈ decodableMaterials, e.materialId = m.materialId

instance : Decidable (Belongs slot matching materials decodableMaterials) :=
  decidable_of_iff _ (belongs_iff slot matching materials decodableMaterials).symm

/-- The window of a candidate, `some none` for a still image; `none` when there is none. -/
def sourceWindow (candidate : SegmentSelectionCandidateScore) : Option (Option (Nat × Nat)) :=
  match materials.find? (·.materialId = candidate.materialId) with
  | none => none
  | some material =>
    if material.kind = .image then some none
    else
      match decodableMaterials.find? (·.materialId = material.materialId) with
      | none => none
      | some evidence => (earliestFittingWindow material evidence slot.durationMs).map some

/-- mirrors segment_selection.py:256-280 -/
def fittingSegments : List SegmentSelectionCandidateScore → Option (List FittingMaterialSegment)
  | [] => some []
  | candidate :: rest =>
    if candidate.qualified = false then fittingSegments rest
    else
      match sourceWindow slot materials decodableMaterials candidate with
      | none => fittingSegments rest
      | some window => do
        let segment ← FittingMaterialSegment.make candidate.materialId candidate.score
          slot.durationMs window
        let segments ← fittingSegments rest
        return segment :: segments

/-- mirrors segment_selection.py:200-286; `none` stands
for a raised error -/
def selectFittingSegments : Option SegmentSelectionCandidates :=
  if Belongs slot matching materials decodableMaterials then do
    let segments ← fittingSegments slot materials decodableMaterials
      (ranked materials matching.candidates)
    SegmentSelectionCandidates.make slot segments
  else none

/-- Some window of the video is long enough. -/
def HasWindow (m : SegmentSelectionMaterial) : Prop :=
  ∃ e ∈ decodableMaterials, e.materialId = m.materialId ∧ ∃ t, FitsAt m e slot.durationMs t

/-- The segment is a still image, or the earliest window of a video. -/
def Shows (m : SegmentSelectionMaterial) (s : FittingMaterialSegment) : Prop :=
  m.kind = .image ∧ s.sourceInMs = none ∧ s.sourceOutMs = none ∨
    m.kind = .video ∧ ∃ e ∈ decodableMaterials, e.materialId = m.materialId ∧ ∃ start,
      Earliest (FitsAt m e slot.durationMs) (some start) ∧ s.sourceInMs = some start ∧
      s.sourceOutMs = some (start + slot.durationMs)

/-- The segment of a candidate. -/
structure Suits (c : SegmentSelectionCandidateScore) (s : FittingMaterialSegment) : Prop where
  qualified : c.qualified = true
  materialId : s.materialId = c.materialId
  score : s.score = c.score
  durationMs : s.durationMs = slot.durationMs
  shows : ∃ m ∈ materials, m.materialId = c.materialId ∧ Shows slot decodableMaterials m s

/-- What a selection holds: a segment for every qualified candidate that has a picture long
enough, no other, and the best first. -/
structure Selects (r : SegmentSelectionCandidates) : Prop where
  sequence : r.sequence = slot.sequence
  durationMs : r.durationMs = slot.durationMs
  sound : ∀ s ∈ r.segments, ∃ c ∈ matching.candidates, Suits slot materials decodableMaterials c s
  complete : ∀ c ∈ matching.candidates, c.qualified = true → ∀ m ∈ materials,
    m.materialId = c.materialId → m.kind = .image ∨ HasWindow slot decodableMaterials m →
    ∃ s ∈ r.segments, Suits slot materials decodableMaterials c s
  once : (r.segments.map (·.materialId)).Nodup
  ranking : r.segments.Pairwise fun a b =>
    RankedBefore materials (a.materialId, a.score) (b.materialId, b.score)

end

theorem rankedBefore_total (materials : List SegmentSelectionMaterial) (a b : Uuid × Nat) :
    RankedBefore materials a b ∨ RankedBefore materials b a := by
  unfold RankedBefore
  omega

theorem rankedBefore_trans {materials : List SegmentSelectionMaterial} {a b c : Uuid × Nat}
    (hab : RankedBefore materials a b) (hbc : RankedBefore materials b c) :
    RankedBefore materials a c := by
  unfold RankedBefore at *
  omega

theorem RankedBefore.score_le {materials : List SegmentSelectionMaterial} {a b : Uuid × Nat}
    (h : RankedBefore materials a b) : b.2 ≤ a.2 := by
  unfold RankedBefore at h
  omega

theorem ranked_pairwise (materials : List SegmentSelectionMaterial)
    (candidates : List SegmentSelectionCandidateScore) :
    (ranked materials candidates).Pairwise fun a b => RankedBefore materials a.key b.key := by
  have htotal : Std.Total fun a b : SegmentSelectionCandidateScore =>
      RankedBefore materials a.key b.key := ⟨fun a b => rankedBefore_total materials a.key b.key⟩
  have htrans : IsTrans SegmentSelectionCandidateScore fun a b =>
      RankedBefore materials a.key b.key := ⟨fun _ _ _ => rankedBefore_trans⟩
  exact List.pairwise_insertionSort _ candidates

section

variable {slot : SegmentSelectionSlot} {matching : SegmentSelectionSentenceMatches}
  {materials : List SegmentSelectionMaterial} {decodableMaterials : List VerifiedDecodableMaterial}
  {segments : List FittingMaterialSegment}

theorem SegmentSelectionCandidateScore.score_ge {c : SegmentSelectionCandidateScore}
    (h : c.qualified = true) : localEditingSemanticScoreThreshold ≤ c.score := by
  rw [c.threshold] at h
  exact of_decide_eq_true h

theorem Belongs.material_unique (h : Belongs slot matching materials decodableMaterials)
    {m m' : SegmentSelectionMaterial} (hm : m ∈ materials) (hm' : m' ∈ materials)
    (heq : m.materialId = m'.materialId) : m = m' :=
  List.inj_on_of_nodup_map h.ids hm hm' heq

theorem Belongs.evidence_unique (h : Belongs slot matching materials decodableMaterials)
    {e e' : VerifiedDecodableMaterial} (he : e ∈ decodableMaterials)
    (he' : e' ∈ decodableMaterials) (heq : e.materialId = e'.materialId) : e = e' :=
  List.inj_on_of_nodup_map h.evidenceIds he he' heq

theorem Belongs.find_material (h : Belongs slot matching materials decodableMaterials)
    {m : SegmentSelectionMaterial} (hm : m ∈ materials) :
    materials.find? (·.materialId = m.materialId) = some m := by
  cases hfind : materials.find? (·.materialId = m.materialId) with
  | none => simpa using List.find?_eq_none.1 hfind m hm
  | some found =>
    have heq : found.materialId = m.materialId := by simpa using List.find?_some hfind
    rw [h.material_unique (List.mem_of_find?_eq_some hfind) hm heq]

theorem Belongs.find_evidence (h : Belongs slot matching materials decodableMaterials)
    {e : VerifiedDecodableMaterial} (he : e ∈ decodableMaterials) :
    decodableMaterials.find? (·.materialId = e.materialId) = some e := by
  cases hfind : decodableMaterials.find? (·.materialId = e.materialId) with
  | none => simpa using List.find?_eq_none.1 hfind e he
  | some found =>
    have heq : found.materialId = e.materialId := by simpa using List.find?_some hfind
    rw [h.evidence_unique (List.mem_of_find?_eq_some hfind) he heq]

/-- The window of a still image is none, the window of a video the earliest that fits. -/
theorem Belongs.sourceWindow_of (h : Belongs slot matching materials decodableMaterials)
    {c : SegmentSelectionCandidateScore} {m : SegmentSelectionMaterial} (hm : m ∈ materials)
    (heq : m.materialId = c.materialId) :
    (m.kind = .image ∧ sourceWindow slot materials decodableMaterials c = some none) ∨
      (m.kind = .video ∧ ∃ e ∈ decodableMaterials, e.materialId = m.materialId ∧
        ∃ r, Earliest (FitsAt m e slot.durationMs) r ∧
          sourceWindow slot materials decodableMaterials c =
            r.map fun start => some (start, start + slot.durationMs)) := by
  have hfind := h.find_material hm
  rw [heq] at hfind
  rcases h.kinds m hm with hvideo | himage
  · right
    obtain ⟨e, he, hid⟩ := h.materials_evidence m hm hvideo
    obtain ⟨r, hr, hwindow⟩ := earliestFittingWindow_earliest m e slot.duration_pos
    have hevidence := h.find_evidence he
    rw [hid] at hevidence
    refine ⟨hvideo, e, he, hid, r, hr, ?_⟩
    simp only [sourceWindow, hfind, hvideo, hevidence, hwindow, reduceCtorEq, if_false,
      Option.map_map]
    rfl
  · left
    exact ⟨himage, by simp [sourceWindow, hfind, himage]⟩

theorem FitsAt.end_le {m : SegmentSelectionMaterial} {e : VerifiedDecodableMaterial} {d t : Nat}
    (h : FitsAt m e d t) : t + d ≤ maxLocalEditingMaterialDurationMs := by
  obtain ⟨-, i, -, -, hend⟩ := h
  exact Nat.le_trans hend i.end_le

/-- The constructor takes what the loop gives it. -/
theorem FittingMaterialSegment.make_some {c : SegmentSelectionCandidateScore}
    (slot : SegmentSelectionSlot) (w : Option (Nat × Nat)) (hqualified : c.qualified = true)
    (hw : ∀ x ∈ w, x.2 ≤ maxLocalEditingMaterialDurationMs ∧ x.2 = x.1 + slot.durationMs) :
    ∃ s, FittingMaterialSegment.make c.materialId c.score slot.durationMs w = some s ∧
      s.materialId = c.materialId ∧ s.score = c.score ∧ s.durationMs = slot.durationMs ∧
      s.sourceInMs = w.map (·.1) ∧ s.sourceOutMs = w.map (·.2) := by
  unfold FittingMaterialSegment.make
  rw [dif_pos ⟨c.canonical, ⟨c.score_ge hqualified, c.score_le⟩,
    ⟨slot.duration_pos, slot.duration_le⟩, hw⟩]
  exact ⟨_, rfl, rfl, rfl, rfl, rfl, rfl⟩

/-- What the loop makes of the candidates from some place on. -/
structure Collected (slot : SegmentSelectionSlot) (materials : List SegmentSelectionMaterial)
    (decodableMaterials : List VerifiedDecodableMaterial)
    (candidates : List SegmentSelectionCandidateScore) (segments : List FittingMaterialSegment) :
    Prop where
  keys : (segments.map fun s => (s.materialId, s.score)).Sublist
    (candidates.map SegmentSelectionCandidateScore.key)
  sound : ∀ s ∈ segments, ∃ c ∈ candidates, Suits slot materials decodableMaterials c s
  complete : ∀ c ∈ candidates, c.qualified = true → ∀ m ∈ materials,
    m.materialId = c.materialId → m.kind = .image ∨ HasWindow slot decodableMaterials m →
    ∃ s ∈ segments, Suits slot materials decodableMaterials c s

theorem Collected.nil : Collected slot materials decodableMaterials [] [] where
  keys := List.Sublist.refl _
  sound := nofun
  complete := nofun

/-- A candidate without a segment. -/
theorem Collected.skip {c : SegmentSelectionCandidateScore}
    {candidates : List SegmentSelectionCandidateScore} {segments : List FittingMaterialSegment}
    (h : Collected slot materials decodableMaterials candidates segments)
    (hnone : c.qualified = true → ∀ m ∈ materials, m.materialId = c.materialId →
      ¬(m.kind = .image ∨ HasWindow slot decodableMaterials m)) :
    Collected slot materials decodableMaterials (c :: candidates) segments where
  keys := h.keys.cons _
  sound := by
    intro s hs
    obtain ⟨c', hc', hsuits⟩ := h.sound s hs
    exact ⟨c', List.mem_cons_of_mem _ hc', hsuits⟩
  complete := by
    intro c' hc' hqualified m hm heq hfits
    rcases List.mem_cons.1 hc' with rfl | hc'
    · exact absurd hfits (hnone hqualified m hm heq)
    · exact h.complete c' hc' hqualified m hm heq hfits

/-- A candidate with its segment. -/
theorem Collected.add {c : SegmentSelectionCandidateScore} {s : FittingMaterialSegment}
    {candidates : List SegmentSelectionCandidateScore} {segments : List FittingMaterialSegment}
    (h : Collected slot materials decodableMaterials candidates segments)
    (hs : Suits slot materials decodableMaterials c s) :
    Collected slot materials decodableMaterials (c :: candidates) (s :: segments) where
  keys := by
    have hkey : (s.materialId, s.score) = c.key := by rw [hs.materialId, hs.score]; rfl
    simp only [List.map_cons, hkey]
    exact h.keys.cons_cons _
  sound := by
    intro s' hs'
    rcases List.mem_cons.1 hs' with rfl | hs'
    · exact ⟨c, List.mem_cons_self, hs⟩
    · obtain ⟨c', hc', hsuits⟩ := h.sound s' hs'
      exact ⟨c', List.mem_cons_of_mem _ hc', hsuits⟩
  complete := by
    intro c' hc' hqualified m hm heq hfits
    rcases List.mem_cons.1 hc' with rfl | hc'
    · exact ⟨s, List.mem_cons_self, hs⟩
    · obtain ⟨s', hs', hsuits⟩ := h.complete c' hc' hqualified m hm heq hfits
      exact ⟨s', List.mem_cons_of_mem _ hs', hsuits⟩

theorem Belongs.fittingSegments_collected
    (h : Belongs slot matching materials decodableMaterials)
    {candidates : List SegmentSelectionCandidateScore}
    (hknown : ∀ c ∈ candidates, ∃ m ∈ materials, m.materialId = c.materialId) :
    ∃ segments, fittingSegments slot materials decodableMaterials candidates = some segments ∧
      Collected slot materials decodableMaterials candidates segments := by
  induction candidates with
  | nil => exact ⟨[], rfl, .nil⟩
  | cons c candidates ih =>
    obtain ⟨segments, hrest, hcollected⟩ :=
      ih fun c' hc' => hknown c' (List.mem_cons_of_mem _ hc')
    rw [fittingSegments]
    by_cases hqualified : c.qualified = true
    · rw [if_neg (by simp [hqualified])]
      obtain ⟨m, hm, heq⟩ := hknown c List.mem_cons_self
      rcases h.sourceWindow_of hm heq with ⟨himage, hwindow⟩ |
        ⟨hvideo, e, he, hid, r, hr, hwindow⟩
      · obtain ⟨s, hmake, hs1, hs2, hs3, hs4, hs5⟩ :=
          FittingMaterialSegment.make_some slot none hqualified nofun
        refine ⟨s :: segments, by simp [hwindow, hmake, hrest], hcollected.add
          ⟨hqualified, hs1, hs2, hs3, m, hm, heq, .inl ⟨himage, hs4, hs5⟩⟩⟩
      · cases r with
        | none =>
          refine ⟨segments, by simp [hwindow, hrest], hcollected.skip
            fun _ m' hm' heq' hfits => ?_⟩
          have hsame := h.material_unique hm' hm (heq'.trans heq.symm)
          subst hsame
          rcases hfits with himage | ⟨e', he', hid', t, ht⟩
          · rw [himage] at hvideo
            cases hvideo
          · have hsame := h.evidence_unique he' he (hid'.trans hid.symm)
            subst hsame
            exact hr t ht
        | some start =>
          obtain ⟨s, hmake, hs1, hs2, hs3, hs4, hs5⟩ :=
            FittingMaterialSegment.make_some slot
              (some (start, start + slot.durationMs)) hqualified (by
                rintro _ ⟨⟩
                exact ⟨hr.1.end_le, rfl⟩)
          refine ⟨s :: segments, by simp [hwindow, hmake, hrest], hcollected.add
            ⟨hqualified, hs1, hs2, hs3, m, hm, heq,
              .inr ⟨hvideo, e, he, hid, start, hr, hs4, hs5⟩⟩⟩
    · rw [if_pos (by simpa using hqualified)]
      exact ⟨segments, hrest, hcollected.skip fun hyes => absurd hyes hqualified⟩

theorem mem_ranked {c : SegmentSelectionCandidateScore}
    {candidates : List SegmentSelectionCandidateScore} :
    c ∈ ranked materials candidates ↔ c ∈ candidates :=
  List.mem_insertionSort _

/-- The candidates of a slot have what their constructor asks for. -/
theorem Collected.make (h : Collected slot materials decodableMaterials
    (ranked materials matching.candidates) segments) :
    ∃ r, SegmentSelectionCandidates.make slot segments = some r ∧
      Selects slot matching materials decodableMaterials r := by
  have hids : (segments.map (·.materialId)).Nodup := by
    have hsub := h.keys.map Prod.fst
    simp only [List.map_map] at hsub
    refine hsub.nodup ?_
    exact ((List.perm_insertionSort _ matching.candidates).map _).nodup_iff.2 matching.ids
  have hranking : segments.Pairwise fun a b =>
      RankedBefore materials (a.materialId, a.score) (b.materialId, b.score) := by
    have hpairwise := List.pairwise_map.2 (ranked_pairwise materials matching.candidates)
    exact List.pairwise_map.1 (hpairwise.sublist h.keys)
  have hlength : segments.length ≤ maxLocalEditingSemanticMaterials := by
    have hle := h.keys.length_le
    simp only [List.length_map, ranked, List.length_insertionSort] at hle
    exact Nat.le_trans hle matching.length_le
  have hdurations : ∀ s ∈ segments, s.durationMs = slot.durationMs := by
    intro s hs
    obtain ⟨c, -, hsuits⟩ := h.sound s hs
    exact hsuits.durationMs
  have hdescending : segments.IsChain fun earlier later => later.score ≤ earlier.score :=
    (hranking.imp fun hab => hab.score_le).isChain
  unfold SegmentSelectionCandidates.make
  rw [dif_pos ⟨hlength, hdurations, hids, hdescending⟩]
  refine ⟨_, rfl, rfl, rfl, fun s hs => ?_, fun c hc => ?_, hids, hranking⟩
  · obtain ⟨c, hc, hsuits⟩ := h.sound s hs
    exact ⟨c, mem_ranked.1 hc, hsuits⟩
  · exact h.complete c (mem_ranked.2 hc)

/-- A selection is made exactly of facts that belong together. -/
theorem selectFittingSegments_cases :
    match selectFittingSegments slot matching materials decodableMaterials with
    | none => ¬Belongs slot matching materials decodableMaterials
    | some r => Belongs slot matching materials decodableMaterials ∧
        Selects slot matching materials decodableMaterials r := by
  by_cases h : Belongs slot matching materials decodableMaterials
  · have hknown : ∀ c ∈ ranked materials matching.candidates,
        ∃ m ∈ materials, m.materialId = c.materialId :=
      fun c hc => h.candidates_materials c (mem_ranked.1 hc)
    obtain ⟨segments, hloop, hcollected⟩ := h.fittingSegments_collected hknown
    obtain ⟨r, hmake, hselects⟩ := hcollected.make
    have heq : selectFittingSegments slot matching materials decodableMaterials = some r := by
      unfold selectFittingSegments
      rw [if_pos h, hloop]
      exact hmake
    rw [heq]
    exact ⟨h, hselects⟩
  · have heq : selectFittingSegments slot matching materials decodableMaterials = none := by
      unfold selectFittingSegments
      rw [if_neg h]
    rw [heq]
    exact h

end

/-- **Windows and segments.** For every material, intervals and duration: the window found is
the earliest inside one shot and one interval, and none is found only where none fits. For
every slot, matching, materials and intervals: a selection is refused exactly when they do not
belong together, and otherwise has the segments of the qualified candidates that fit, ranked,
each once. -/
theorem selectFittingSegments_spec :
    (∀ (material : SegmentSelectionMaterial) (evidence : VerifiedDecodableMaterial)
        (durationMs : Nat), 1 ≤ durationMs →
      match earliestFittingWindow material evidence durationMs with
      | none => ∀ t, ¬FitsAt material evidence durationMs t
      | some (start, stop) => stop = start + durationMs ∧ FitsAt material evidence durationMs start ∧
          ∀ t, FitsAt material evidence durationMs t → start ≤ t) ∧
    ∀ (slot : SegmentSelectionSlot) (matching : SegmentSelectionSentenceMatches)
        (materials : List SegmentSelectionMaterial)
        (decodableMaterials : List VerifiedDecodableMaterial),
      match selectFittingSegments slot matching materials decodableMaterials with
      | none => ¬Belongs slot matching materials decodableMaterials
      | some r => Belongs slot matching materials decodableMaterials ∧
          Selects slot matching materials decodableMaterials r := by
  constructor
  · intro material evidence durationMs hpos
    obtain ⟨r, hr, heq⟩ := earliestFittingWindow_earliest material evidence hpos
    rw [heq]
    cases r with
    | none => exact hr
    | some start => exact ⟨rfl, hr⟩
  · intro slot matching materials decodableMaterials
    exact selectFittingSegments_cases

end AutomationTool.Executor.SmartEdit
