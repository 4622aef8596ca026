import AutomationTool.Core.Failing
import AutomationTool.Editing.Layout

/-!
# The first cut, from a draft

A draft is a list of paragraphs, each with a picture, a text and a sound: a narration, or the
sound of the picture itself. `createLocalEditingTimeline` lays them one behind the other on
four lanes, through the constructors of the timeline.

* `draft_timeline`: no constructor refuses what it builds, and at every instant of the film
  there is one picture, one caption and one sound.
-/
namespace AutomationTool.Editing

open Protocol

/-! ## The protocol -/

/-- mirrors local_editing.py:18-25 -/
def minLocalEditingTimelineDurationMs : Nat := 100
def maxLocalEditingTimelineDurationMs : Nat := 600000
def maxLocalEditingMaterialDurationMs : Nat := 4 * 60 * 60 * 1000
def maxLocalEditingTimelineCaptionCharacters : Nat := 2000
def maxLocalEditingSemanticMaterials : Nat := 32

inductive ParagraphKind where
  | originalSpeech | narrated
  deriving DecidableEq, Repr

structure ParagraphFields where
  sequence : Nat
  kind : ParagraphKind
  visualMaterialId : Uuid
  audioMaterialId : Uuid
  durationMs : Nat
  visualSourceInMs : Option Nat
  visualSourceOutMs : Option Nat
  captionText : List Char
  deriving DecidableEq

/-- `is_canonical_local_editing_material_id`. -/
def isCanonicalMaterialId (u : Uuid) : Bool := Uuid.version u = some 4

/-- The source window: both ends or neither, as long as the paragraph. -/
def ParagraphFields.validWindow (p : ParagraphFields) : Bool :=
  match p.visualSourceInMs, p.visualSourceOutMs with
  | none, none => true
  | some sourceIn, some sourceOut =>
    sourceOut ≤ maxLocalEditingMaterialDurationMs ∧ sourceOut = sourceIn + p.durationMs
  | _, _ => false

/-- `LocalEditingTimelineParagraph.__post_init__`.
mirrors local_editing.py:85-128 -/
structure ParagraphFields.Valid [UnicodeData] (p : ParagraphFields) : Prop where
  sequence_pos : 1 ≤ p.sequence
  sequence_le : p.sequence ≤ maxLocalEditingSemanticMaterials
  visualId : isCanonicalMaterialId p.visualMaterialId = true
  audioId : isCanonicalMaterialId p.audioMaterialId = true
  duration_pos : 1 ≤ p.durationMs
  duration_le : p.durationMs ≤ maxLocalEditingTimelineDurationMs
  caption : validateText maxLocalEditingTimelineCaptionCharacters p.captionText = true
  original : p.kind = .originalSpeech →
    p.audioMaterialId = p.visualMaterialId ∧ p.visualSourceInMs ≠ none
  narrated : p.kind = .narrated → p.audioMaterialId ≠ p.visualMaterialId
  window : p.validWindow = true

structure Paragraph [UnicodeData] extends ParagraphFields where
  valid : toParagraphFields.Valid

/-! ## Names -/

theorem parse_canonical {u : Uuid} (h : isCanonicalMaterialId u = true) :
    MaterialId.parse u = some u := if_pos (of_decide_eq_true h)

theorem parse_eq {u m : Nat} (h : MaterialId.parse u = some m) : m = u := by
  unfold MaterialId.parse at h
  split at h <;> cases h
  rfl

/-- `f"{n:04d}"`. -/
def padded (n : Nat) : List Char :=
  let digits := Nat.toDigits 10 n
  List.replicate (4 - digits.length) '0' ++ digits

theorem clipId_valid {pre : List Char} (hpre : pre ∈ ["visual-".toList, "narration-".toList,
    "ambient-".toList, "caption-".toList]) {n : Nat} (hn : n ≤ 32) :
    localIdPattern (pre ++ padded n) = true := by
  have hall : ∀ pre ∈ ["visual-".toList, "narration-".toList, "ambient-".toList,
      "caption-".toList], ∀ n ≤ 32, localIdPattern (pre ++ padded n) = true := by decide +kernel
  exact hall pre hpre n hn

theorem padded_inj {m n : Nat} (hm : m ≤ 32) (hn : n ≤ 32) (h : padded m = padded n) : m = n := by
  have hall : ∀ m ≤ 32, ∀ n ≤ 32, padded m = padded n → m = n := by decide +kernel
  exact hall m hm n hn h

section

variable [UnicodeData]

/-- `LocalEditingTimelineDraft`.
mirrors local_editing.py:149-204 -/
structure LocalEditingTimelineDraft where
  paragraphs : List Paragraph
  nonempty : 1 ≤ paragraphs.length
  length_le : paragraphs.length ≤ maxLocalEditingSemanticMaterials
  sequences : paragraphs.map (·.sequence) = List.range' 1 paragraphs.length
  /-- A picture that is shown more than once has no time axis. -/
  repeated : ∀ m ∈ paragraphs.map (·.visualMaterialId),
    1 < paragraphs.countP (fun p => p.visualMaterialId = m) →
      ∀ p ∈ paragraphs, p.visualMaterialId = m → p.visualSourceInMs = none
  narrationIds : ((paragraphs.filter (·.kind = .narrated)).map (·.audioMaterialId)).Nodup
  narrations : ∀ p ∈ paragraphs, p.kind = .narrated →
    p.audioMaterialId ∉ paragraphs.map (·.visualMaterialId)
  duration_ge : minLocalEditingTimelineDurationMs ≤ (paragraphs.map (·.durationMs)).sum
  duration_le : (paragraphs.map (·.durationMs)).sum ≤ maxLocalEditingTimelineDurationMs

def LocalEditingTimelineDraft.durationMs (d : LocalEditingTimelineDraft) : Nat :=
  (d.paragraphs.map (·.durationMs)).sum

/-! ## The cut -/

/-- A paragraph and where it starts. -/
abbrev Positioned := Paragraph × Nat

def positioned (startMs : Nat) : List Paragraph → List Positioned
  | [] => []
  | p :: paragraphs => (p, startMs) :: positioned (startMs + p.durationMs) paragraphs

def visualClip (x : Positioned) : Option TimelineClip := do
  let material ← MaterialId.parse x.1.visualMaterialId
  TimelineClip.make
    { clipId := "visual-".toList ++ padded x.1.sequence
      startMs := x.2
      durationMs := x.1.durationMs
      sourceMaterialId := some material
      sourceInMs := x.1.visualSourceInMs
      sourceOutMs := x.1.visualSourceOutMs
      text := none
      gainDb := none
      transitionIn := none
      originalAudioMode := none }

def narrationClip (x : Positioned) : Option TimelineClip := do
  let material ← MaterialId.parse x.1.audioMaterialId
  TimelineClip.make
    { clipId := "narration-".toList ++ padded x.1.sequence
      startMs := x.2
      durationMs := x.1.durationMs
      sourceMaterialId := some material
      sourceInMs := some 0
      sourceOutMs := some x.1.durationMs
      text := none
      gainDb := some 0
      transitionIn := none
      originalAudioMode := none }

def ambientClip (x : Positioned) : Option TimelineClip := do
  let material ← MaterialId.parse x.1.audioMaterialId
  TimelineClip.make
    { clipId := "ambient-".toList ++ padded x.1.sequence
      startMs := x.2
      durationMs := x.1.durationMs
      sourceMaterialId := some material
      sourceInMs := x.1.visualSourceInMs
      sourceOutMs := x.1.visualSourceOutMs
      text := none
      gainDb := some 0
      transitionIn := none
      originalAudioMode := some .autoDuck }

def captionClip (x : Positioned) : Option TimelineClip :=
  TimelineClip.make
    { clipId := "caption-".toList ++ padded x.1.sequence
      startMs := x.2
      durationMs := x.1.durationMs
      sourceMaterialId := none
      sourceInMs := none
      sourceOutMs := none
      text := some x.1.captionText
      gainDb := none
      transitionIn := none
      originalAudioMode := none }

/-- A lane that is left out when it is empty. -/
def optionalTrack (trackId : String) (kind : TimelineTrackKind) (clips : List TimelineClip) :
    Option (List TimelineTrack) :=
  if clips = [] then some []
  else (TimelineTrack.make ⟨trackId.toList, kind, clips⟩).map fun track => [track]

/-- mirrors local_editing_timeline.py:61-171 -/
def createLocalEditingTimeline (draft : LocalEditingTimelineDraft) (timelineId : TimelineId)
    (projectId : EditingProjectId) (createdAt : Time) : Option Timeline := do
  let positioned := positioned 0 draft.paragraphs
  let visualClips ← positioned.mapM visualClip
  let narrationClips ← (positioned.filter (·.1.kind = .narrated)).mapM narrationClip
  let ambientClips ← (positioned.filter (·.1.kind = .originalSpeech)).mapM ambientClip
  let captionClips ← positioned.mapM captionClip
  let visual ← TimelineTrack.make ⟨"visual".toList, .visual, visualClips⟩
  let narration ← optionalTrack "narration" .narration narrationClips
  let ambient ← optionalTrack "ambient" .ambient ambientClips
  let caption ← TimelineTrack.make ⟨"caption".toList, .caption, captionClips⟩
  Timeline.make
    { timelineId, projectId
      revision := 1
      durationMs := draft.durationMs
      tracks := [visual] ++ narration ++ ambient ++ [caption]
      createdAt }

/-! ## Where the paragraphs lie -/

def spanOf (x : Positioned) : Span := ⟨x.2, x.1.durationMs, 0⟩

theorem positioned_fst (start : Nat) (paragraphs : List Paragraph) :
    (positioned start paragraphs).map (·.1) = paragraphs := by
  induction paragraphs generalizing start with
  | nil => rfl
  | cons p paragraphs ih => rw [positioned, List.map_cons, ih]

theorem positioned_length (start : Nat) (paragraphs : List Paragraph) :
    (positioned start paragraphs).length = paragraphs.length := by
  rw [← List.length_map (f := fun x : Positioned => x.1), positioned_fst]

theorem positioned_chained (start tail : Nat) (paragraphs : List Paragraph) :
    Span.Chained start tail ((positioned start paragraphs).map spanOf) := by
  induction paragraphs generalizing start tail with
  | nil => trivial
  | cons p paragraphs ih => exact ⟨p.valid.duration_pos, .inl rfl, rfl, ih _ _⟩

theorem spanOf_overlap {start : Nat} {paragraphs : List Paragraph} :
    ∀ s ∈ (positioned start paragraphs).map spanOf, s.overlap = 0 := by
  intro s hs
  obtain ⟨x, -, rfl⟩ := List.mem_map.1 hs
  rfl

theorem positioned_lastStop (start : Nat) (paragraphs : List Paragraph) :
    Span.lastStop start ((positioned start paragraphs).map spanOf) =
      start + (paragraphs.map (·.durationMs)).sum := by
  induction paragraphs generalizing start with
  | nil => rfl
  | cons p paragraphs ih =>
    show Span.lastStop (start + p.durationMs) _ = _
    rw [ih, List.map_cons, List.sum_cons, Nat.add_assoc]

section

variable (draft : LocalEditingTimelineDraft)

/-- The paragraphs of the draft, laid one behind the other. -/
abbrev LocalEditingTimelineDraft.laid : List Positioned := positioned 0 draft.paragraphs

theorem laid_end_le {x : Positioned} (hx : x ∈ draft.laid) :
    x.2 + x.1.durationMs ≤ draft.durationMs := by
  have hle := (positioned_chained 0 0 draft.paragraphs).stop_le_lastStop _ (List.mem_map_of_mem hx)
  rw [positioned_lastStop, Nat.zero_add] at hle
  exact hle

theorem laid_end_le_max {x : Positioned} (hx : x ∈ draft.laid) :
    x.2 + x.1.durationMs ≤ maxTimelineDurationMs :=
  (laid_end_le draft hx).trans draft.duration_le

end

/-! ## The clips -/

theorem validWindow_source {p : Paragraph} {c : ClipFields} (hm : c.sourceMaterialId.isSome)
    (hin : c.sourceInMs = p.visualSourceInMs) (hout : c.sourceOutMs = p.visualSourceOutMs)
    (hd : c.durationMs = p.durationMs) : c.validateSourceWindow = true := by
  have hwindow := p.valid.window
  unfold ParagraphFields.validWindow at hwindow
  unfold ClipFields.validateSourceWindow
  rw [hin, hout, hd]
  cases hi : p.visualSourceInMs with
  | none =>
    cases ho : p.visualSourceOutMs with
    | none => rfl
    | some o => simp [hi, ho] at hwindow
  | some i =>
    cases ho : p.visualSourceOutMs with
    | none => simp [hi, ho] at hwindow
    | some o =>
      simp only [hi, ho, decide_eq_true_eq] at hwindow
      exact decide_eq_true ⟨hm, hwindow⟩

section

variable {x : Positioned} (hend : x.2 + x.1.durationMs ≤ maxTimelineDurationMs)
include hend

theorem visualClip_isSome : ∃ clip, visualClip x = some clip := by
  unfold visualClip
  rw [parse_canonical x.1.valid.visualId]
  refine ⟨⟨_, ?_⟩, TimelineClip.make_eq_some.2 rfl⟩
  exact ⟨clipId_valid (by simp) x.1.valid.sequence_le, x.1.valid.duration_pos, hend, rfl, by simp,
    validWindow_source rfl rfl rfl rfl, rfl, rfl⟩

theorem narrationClip_isSome : ∃ clip, narrationClip x = some clip := by
  unfold narrationClip
  rw [parse_canonical x.1.valid.audioId]
  refine ⟨⟨_, ?_⟩, TimelineClip.make_eq_some.2 rfl⟩
  refine ⟨clipId_valid (by simp) x.1.valid.sequence_le, x.1.valid.duration_pos, hend, rfl, by simp,
    ?_, by simp [ClipFields.validateGain, minGainDb, maxGainDb], rfl⟩
  have hle := x.1.valid.duration_le
  exact decide_eq_true ⟨rfl, hle.trans (by decide), (Nat.zero_add _).symm⟩

theorem ambientClip_isSome (hk : x.1.kind = .originalSpeech) :
    ∃ clip, ambientClip x = some clip := by
  unfold ambientClip
  rw [parse_canonical x.1.valid.audioId]
  refine ⟨⟨_, ?_⟩, TimelineClip.make_eq_some.2 rfl⟩
  refine ⟨clipId_valid (by simp) x.1.valid.sequence_le, x.1.valid.duration_pos, hend, rfl, by simp,
    validWindow_source rfl rfl rfl rfl, ?_, rfl⟩
  have hin := (x.1.valid.original hk).2
  simp [ClipFields.validateGain, minGainDb, maxGainDb, Option.isSome_iff_ne_none.2 hin]

theorem captionClip_isSome : ∃ clip, captionClip x = some clip := by
  refine ⟨⟨_, ?_⟩, TimelineClip.make_eq_some.2 rfl⟩
  exact ⟨clipId_valid (by simp) x.1.valid.sequence_le, x.1.valid.duration_pos, hend,
    x.1.valid.caption, by simp, rfl, rfl, rfl⟩

end

/-- What a lane plays of a clip. -/
structure Played where
  startMs : Nat
  durationMs : Nat
  sourceMaterialId : Option MaterialId
  sourceInMs : Option Nat
  sourceOutMs : Option Nat
  text : Option (List Char)
  gainDb : Option ℚ
  deriving DecidableEq

def TimelineClip.played (c : TimelineClip) : Played :=
  ⟨c.startMs, c.durationMs, c.sourceMaterialId, c.sourceInMs, c.sourceOutMs, c.text, c.gainDb⟩

/-- The clip of a paragraph on a lane. -/
structure ClipOf (pre : List Char) (kind : TimelineTrackKind) (plays : Positioned → Played)
    (x : Positioned) (clip : TimelineClip) : Prop where
  clipId : clip.clipId = pre ++ padded x.1.sequence
  span : clip.span = spanOf x
  played : clip.played = plays x
  shape : kind.validateClipShape clip = true

namespace Positioned

def visual (x : Positioned) : Played :=
  ⟨x.2, x.1.durationMs, some x.1.visualMaterialId, x.1.visualSourceInMs, x.1.visualSourceOutMs,
    none, none⟩

def narration (x : Positioned) : Played :=
  ⟨x.2, x.1.durationMs, some x.1.audioMaterialId, some 0, some x.1.durationMs, none, some 0⟩

def ambient (x : Positioned) : Played :=
  ⟨x.2, x.1.durationMs, some x.1.audioMaterialId, x.1.visualSourceInMs, x.1.visualSourceOutMs,
    none, some 0⟩

def caption (x : Positioned) : Played :=
  ⟨x.2, x.1.durationMs, none, none, none, some x.1.captionText, none⟩

end Positioned

/-- The fields a clip was made of say what it plays. -/
theorem clipOf_fields {pre : List Char} {kind : TimelineTrackKind} {plays : Positioned → Played}
    {x : Positioned} {clip : TimelineClip} {c : ClipFields} (hc : clip.toClipFields = c)
    (hid : c.clipId = pre ++ padded x.1.sequence) (hstart : c.startMs = x.2)
    (hduration : c.durationMs = x.1.durationMs) (htransition : c.transitionIn = none)
    (hplayed : (⟨c.startMs, c.durationMs, c.sourceMaterialId, c.sourceInMs, c.sourceOutMs, c.text,
      c.gainDb⟩ : Played) = plays x) (hshape : kind.validateClipShape clip = true) :
    ClipOf pre kind plays x clip := by
  subst hc
  refine ⟨hid, ?_, hplayed, hshape⟩
  simp [TimelineClip.span, TimelineClip.overlap, spanOf, hstart, hduration, htransition]

theorem visualClip_clipOf {x : Positioned} {clip : TimelineClip} (h : visualClip x = some clip) :
    ClipOf "visual-".toList .visual Positioned.visual x clip := by
  obtain ⟨m, hm, h⟩ := Option.bind_eq_some_iff.1 h
  have hc := TimelineClip.make_eq_some.1 h
  obtain rfl := parse_eq hm
  refine clipOf_fields hc rfl rfl rfl rfl rfl ?_
  simp [TimelineTrackKind.validateClipShape, hc]

theorem narrationClip_clipOf {x : Positioned} {clip : TimelineClip}
    (h : narrationClip x = some clip) :
    ClipOf "narration-".toList .narration Positioned.narration x clip := by
  obtain ⟨m, hm, h⟩ := Option.bind_eq_some_iff.1 h
  have hc := TimelineClip.make_eq_some.1 h
  obtain rfl := parse_eq hm
  refine clipOf_fields hc rfl rfl rfl rfl rfl ?_
  simp [TimelineTrackKind.validateClipShape, hc]

theorem ambientClip_clipOf {x : Positioned} {clip : TimelineClip}
    (h : ambientClip x = some clip) :
    ClipOf "ambient-".toList .ambient Positioned.ambient x clip := by
  obtain ⟨m, hm, h⟩ := Option.bind_eq_some_iff.1 h
  have hc := TimelineClip.make_eq_some.1 h
  obtain rfl := parse_eq hm
  refine clipOf_fields hc rfl rfl rfl rfl rfl ?_
  simp [TimelineTrackKind.validateClipShape, hc]

theorem captionClip_clipOf {x : Positioned} {clip : TimelineClip}
    (h : captionClip x = some clip) :
    ClipOf "caption-".toList .caption Positioned.caption x clip := by
  have hc := TimelineClip.make_eq_some.1 h
  refine clipOf_fields hc rfl rfl rfl rfl rfl ?_
  simp [TimelineTrackKind.validateClipShape, hc]

/-! ## The lanes -/

section

variable {draft : LocalEditingTimelineDraft} {pre : List Char} {kind : TimelineTrackKind}
  {plays : Positioned → Played} {xs : List Positioned} {clips : List TimelineClip}

theorem lane_spans (h : List.Forall₂ (ClipOf pre kind plays) xs clips) :
    clips.map (·.span) = xs.map spanOf := map_eq_of_forall₂ h fun _ _ hc => hc.span

theorem lane_played (h : List.Forall₂ (ClipOf pre kind plays) xs clips) :
    clips.map (·.played) = xs.map plays := map_eq_of_forall₂ h fun _ _ hc => hc.played

theorem laid_ids_nodup (hsub : xs.Sublist draft.laid) :
    (xs.map fun x => pre ++ padded x.1.sequence).Nodup := by
  have hseq : (xs.map (·.1.sequence)).Nodup := by
    refine List.Nodup.sublist (hsub.map _) ?_
    have hall : draft.laid.map (·.1.sequence) = draft.paragraphs.map (·.sequence) := by
      rw [← positioned_fst 0 draft.paragraphs, List.map_map]
      rfl
    rw [hall, draft.sequences]
    exact List.nodup_range'
  have hcomp : xs.map (fun x => pre ++ padded x.1.sequence) =
      (xs.map (·.1.sequence)).map fun n => pre ++ padded n := by
    rw [List.map_map]
    rfl
  rw [hcomp]
  refine List.Nodup.map_on (fun a ha b hb hab => ?_) hseq
  obtain ⟨x, -, rfl⟩ := List.mem_map.1 ha
  obtain ⟨y, -, rfl⟩ := List.mem_map.1 hb
  exact padded_inj x.1.valid.sequence_le y.1.valid.sequence_le (List.append_cancel_left hab)

theorem lane_ne_nil (h : List.Forall₂ (ClipOf pre kind plays) xs clips) (hne : clips ≠ []) :
    xs ≠ [] := by
  intro hnil
  subst hnil
  cases h
  exact hne rfl

/-- A lane without its layout. -/
theorem lane_valid (h : List.Forall₂ (ClipOf pre kind plays) xs clips)
    (hsub : xs.Sublist draft.laid) (hne : xs ≠ []) {trackId : List Char}
    (hid : localIdPattern trackId = true) (hlayout : kind.validateLayout clips = true) :
    TrackFields.Valid ⟨trackId, kind, clips⟩ where
  trackId := hid
  nonempty := by
    rw [← h.length_eq]
    exact List.length_pos_iff.2 hne
  length_le := by
    rw [← h.length_eq]
    refine hsub.length_le.trans ?_
    rw [positioned_length]
    exact draft.length_le.trans (by decide)
  clipIds := by
    rw [map_eq_of_forall₂ h (fun _ _ hc => hc.clipId)]
    exact laid_ids_nodup hsub
  shape clip hclip := by
    obtain ⟨x, -, hc⟩ := forall₂_mem_right h hclip
    exact hc.shape
  layout := hlayout

theorem laid_visualLayout (h : List.Forall₂ (ClipOf pre kind plays) draft.laid clips) :
    visualLayout 0 0 clips = true := by
  refine visualLayout_of_chained ?_
  rw [lane_spans h]
  exact positioned_chained 0 0 draft.paragraphs

theorem laid_orderedLayout (h : List.Forall₂ (ClipOf pre kind plays) xs clips)
    (hsub : xs.Sublist draft.laid) : orderedLayout 0 clips = true := by
  refine orderedLayout_of_pairwise (fun _ _ => Nat.zero_le _) ?_
  have hpair := ((positioned_chained 0 0 draft.paragraphs).pairwise spanOf_overlap).sublist
    (hsub.map spanOf)
  rw [← lane_spans h] at hpair
  exact List.pairwise_map.1 hpair

theorem lane_endMs_le (h : List.Forall₂ (ClipOf pre kind plays) xs clips)
    (hsub : xs.Sublist draft.laid) : ∀ clip ∈ clips, clip.endMs ≤ draft.durationMs := by
  intro clip hclip
  obtain ⟨x, hx, hc⟩ := forall₂_mem_right h hclip
  have hend := laid_end_le draft (hsub.subset hx)
  rw [← TimelineClip.span_stop, hc.span]
  exact hend

/-- At any instant a lane plays what its paragraphs do. -/
theorem lane_countP (h : List.Forall₂ (ClipOf pre kind plays) xs clips) (x : ℚ) :
    clips.countP (fun clip => clip.PlaysAt x) = xs.countP fun p => (spanOf p).Covers x := by
  have hspans := congrArg (List.countP fun s : Span => s.Covers x) (lane_spans h)
  rw [List.countP_map, List.countP_map] at hspans
  exact hspans

theorem laid_countP (draft : LocalEditingTimelineDraft) {x : ℚ} (hx : 0 ≤ x)
    (hlt : x < draft.durationMs) : draft.laid.countP (fun p => (spanOf p).Covers x) = 1 := by
  have hchain := positioned_chained 0 0 draft.paragraphs
  have hstop := positioned_lastStop 0 draft.paragraphs
  rw [Nat.zero_add] at hstop
  have hone := hchain.count_eq_one spanOf_overlap (x := x) (by simpa using hx)
    (by rw [hstop]; exact hlt)
  rwa [List.countP_map] at hone

end

/-! ## The timeline -/

/-- A lane that is there unless it is empty. -/
def OptionalLane (trackId : String) (kind : TimelineTrackKind) (clips : List TimelineClip)
    (tracks : List TimelineTrack) : Prop :=
  clips = [] ∧ tracks = [] ∨
    ∃ track, tracks = [track] ∧ track.toTrackFields = ⟨trackId.toList, kind, clips⟩

theorem optionalTrack_eq {trackId : String} {kind : TimelineTrackKind} {clips : List TimelineClip}
    (h : clips ≠ [] → TrackFields.Valid ⟨trackId.toList, kind, clips⟩) :
    ∃ tracks, optionalTrack trackId kind clips = some tracks ∧
      OptionalLane trackId kind clips tracks := by
  unfold optionalTrack
  split
  · next hnil => exact ⟨[], rfl, .inl ⟨hnil, rfl⟩⟩
  · next hne =>
    refine ⟨[⟨_, h hne⟩], ?_, .inr ⟨_, rfl, rfl⟩⟩
    have hmake : TimelineTrack.make ⟨trackId.toList, kind, clips⟩ = some ⟨_, h hne⟩ :=
      TimelineTrack.make_eq_some.2 rfl
    rw [hmake]
    rfl

/-- The film a draft is about. -/
structure Timeline.CutOf (draft : LocalEditingTimelineDraft) (t : Timeline) : Prop where
  duration : t.durationMs = (draft.paragraphs.map (·.durationMs)).sum
  order : (t.clipsOf .visual).map (fun c => (c.sourceMaterialId, c.durationMs)) =
    draft.paragraphs.map fun p => (some p.visualMaterialId, p.durationMs)
  visual : (t.clipsOf .visual).map (·.played) = draft.laid.map Positioned.visual
  narration : (t.clipsOf .narration).map (·.played) =
    (draft.laid.filter (·.1.kind = .narrated)).map Positioned.narration
  ambient : (t.clipsOf .ambient).map (·.played) =
    (draft.laid.filter (·.1.kind = .originalSpeech)).map Positioned.ambient
  caption : (t.clipsOf .caption).map (·.played) = draft.laid.map Positioned.caption
  onePicture : ∀ x : ℚ, 0 ≤ x → x < t.durationMs →
    (t.clipsOf .visual).countP (fun clip => clip.PlaysAt x) = 1
  oneCaption : ∀ x : ℚ, 0 ≤ x → x < t.durationMs →
    (t.clipsOf .caption).countP (fun clip => clip.PlaysAt x) = 1
  oneSound : ∀ x : ℚ, 0 ≤ x → x < t.durationMs →
    (t.clipsOf .narration ++ t.clipsOf .ambient ++ t.clipsOf .music).countP
      (fun clip => clip.PlaysAt x) = 1

/-- The lanes of a film. -/
structure Lanes (draft : LocalEditingTimelineDraft) (v n a c : List TimelineClip) : Prop where
  visual : List.Forall₂ (ClipOf "visual-".toList .visual Positioned.visual) draft.laid v
  narration : List.Forall₂ (ClipOf "narration-".toList .narration Positioned.narration)
    (draft.laid.filter (·.1.kind = .narrated)) n
  ambient : List.Forall₂ (ClipOf "ambient-".toList .ambient Positioned.ambient)
    (draft.laid.filter (·.1.kind = .originalSpeech)) a
  caption : List.Forall₂ (ClipOf "caption-".toList .caption Positioned.caption) draft.laid c

theorem laid_ne_nil (draft : LocalEditingTimelineDraft) : draft.laid ≠ [] := by
  refine List.length_pos_iff.1 ?_
  rw [positioned_length]
  exact draft.nonempty

namespace Lanes

variable {draft : LocalEditingTimelineDraft} {v n a c : List TimelineClip}
  (h : Lanes draft v n a c)
include h

/-- A paragraph is narrated or speaks for itself. -/
theorem sound_countP (x : ℚ) : (n ++ a).countP (fun clip => clip.PlaysAt x) =
    draft.laid.countP fun p => (spanOf p).Covers x := by
  rw [List.countP_append, lane_countP h.narration, lane_countP h.ambient]
  induction draft.laid with
  | nil => rfl
  | cons p laid ih =>
    cases hk : p.1.kind <;> simp [List.countP_cons, hk, ← ih] <;> omega

theorem endMs_le : ∀ clip ∈ v ++ n ++ a ++ c, clip.endMs ≤ draft.durationMs := by
  intro clip hclip
  simp only [List.mem_append] at hclip
  obtain ((hclip | hclip) | hclip) | hclip := hclip
  · exact lane_endMs_le h.visual (List.Sublist.refl _) clip hclip
  · exact lane_endMs_le h.narration List.filter_sublist clip hclip
  · exact lane_endMs_le h.ambient List.filter_sublist clip hclip
  · exact lane_endMs_le h.caption (List.Sublist.refl _) clip hclip

theorem last_endMs : (v.getLast?.map (·.endMs)) = some draft.durationMs := by
  have hne : v ≠ [] := by
    intro hnil
    have := h.visual.length_eq
    rw [hnil] at this
    exact laid_ne_nil draft (List.length_eq_zero_iff.1 this)
  have hstop := positioned_lastStop 0 draft.paragraphs
  rw [← lane_spans h.visual, Span.lastStop_eq_getLast?, List.getLast?_map,
    List.getLast?_eq_some_getLast hne, Nat.zero_add] at hstop
  rw [List.getLast?_eq_some_getLast hne]
  exact congrArg some hstop

end Lanes

theorem clips_of_draft (draft : LocalEditingTimelineDraft) : ∃ v n a c,
    draft.laid.mapM visualClip = some v ∧
      (draft.laid.filter (·.1.kind = .narrated)).mapM narrationClip = some n ∧
      (draft.laid.filter (·.1.kind = .originalSpeech)).mapM ambientClip = some a ∧
      draft.laid.mapM captionClip = some c ∧ Lanes draft v n a c := by
  obtain ⟨v, hv⟩ : ∃ v, draft.laid.mapM visualClip = some v :=
    exists_mapM fun x hx => visualClip_isSome (laid_end_le_max draft hx)
  obtain ⟨n, hn⟩ : ∃ n, (draft.laid.filter (·.1.kind = .narrated)).mapM narrationClip = some n :=
    exists_mapM fun x hx =>
      narrationClip_isSome (laid_end_le_max draft (List.mem_of_mem_filter hx))
  obtain ⟨a, ha⟩ : ∃ a,
      (draft.laid.filter (·.1.kind = .originalSpeech)).mapM ambientClip = some a :=
    exists_mapM fun x hx => ambientClip_isSome (laid_end_le_max draft (List.mem_of_mem_filter hx))
      (of_decide_eq_true (List.mem_filter.1 hx).2)
  obtain ⟨c, hc⟩ : ∃ c, draft.laid.mapM captionClip = some c :=
    exists_mapM fun x hx => captionClip_isSome (laid_end_le_max draft hx)
  exact ⟨v, n, a, c, hv, hn, ha, hc,
    ⟨(mapM_eq_some.1 hv).imp fun _ _ => visualClip_clipOf,
      (mapM_eq_some.1 hn).imp fun _ _ => narrationClip_clipOf,
      (mapM_eq_some.1 ha).imp fun _ _ => ambientClip_clipOf,
      (mapM_eq_some.1 hc).imp fun _ _ => captionClip_clipOf⟩⟩

/-- The tracks, by the lanes that are there. -/
structure Tracks (draft : LocalEditingTimelineDraft) (v n a c : List TimelineClip)
    (tracks : List TimelineTrack) : Prop where
  ids : (tracks.map (·.trackId)).Nodup
  kinds : (tracks.map (·.kind)).Nodup
  nonempty : 1 ≤ tracks.length
  length_le : tracks.length ≤ 5
  picture : ∃ track, tracks.find? (fun track => track.kind = .visual) = some track ∧ track.clips = v
  clips : ∀ track ∈ tracks, ∀ clip ∈ track.clips, clip ∈ v ++ n ++ a ++ c
  lanes : ∀ t : TimelineFields, t.tracks = tracks → t.clipsOf .visual = v ∧
    t.clipsOf .narration = n ∧ t.clipsOf .ambient = a ∧ t.clipsOf .caption = c ∧
    t.clipsOf .music = []

theorem tracks_of_lanes {draft : LocalEditingTimelineDraft} {v n a c : List TimelineClip}
    {visual caption : TimelineTrack} {narration ambient : List TimelineTrack}
    (hv : visual.toTrackFields = ⟨"visual".toList, .visual, v⟩)
    (hn : OptionalLane "narration" .narration n narration)
    (ha : OptionalLane "ambient" .ambient a ambient)
    (hc : caption.toTrackFields = ⟨"caption".toList, .caption, c⟩) :
    Tracks draft v n a c ([visual] ++ narration ++ ambient ++ [caption]) := by
  rcases hn with ⟨rfl, rfl⟩ | ⟨narration, rfl, hn⟩ <;>
    rcases ha with ⟨rfl, rfl⟩ | ⟨ambient, rfl, ha⟩ <;>
    constructor <;> simp_all [TimelineFields.clipsOf, TimelineFields.trackOf]

theorem cut_valid {draft : LocalEditingTimelineDraft} {v n a c : List TimelineClip}
    {tracks : List TimelineTrack} (hl : Lanes draft v n a c) (ht : Tracks draft v n a c tracks)
    (timelineId : TimelineId) (projectId : EditingProjectId) (createdAt : Time) :
    TimelineFields.Valid ⟨timelineId, projectId, 1, draft.durationMs, tracks, createdAt⟩ where
  revision_pos := Nat.le_refl 1
  duration_ge := draft.duration_ge
  duration_le := draft.duration_le
  nonempty := ht.nonempty
  length_le := ht.length_le
  trackIds := ht.ids
  kinds := ht.kinds
  picture := by
    obtain ⟨track, hfind, rfl⟩ := ht.picture
    have hlast := hl.last_endMs
    rw [TimelineFields.trackOf, hfind, Option.map_some, ← hlast, TimelineTrack.endMs]
    cases hg : track.clips.getLast? with
    | none =>
      rw [hg] at hlast
      cases hlast
    | some clip => rfl
  inside track htrack clip hclip := hl.endMs_le clip (ht.clips track htrack clip hclip)

theorem cutOf_lanes {draft : LocalEditingTimelineDraft} {v n a c : List TimelineClip}
    {t : Timeline} (hl : Lanes draft v n a c) (ht : Tracks draft v n a c t.tracks)
    (hd : t.durationMs = draft.durationMs) : t.CutOf draft := by
  obtain ⟨hv, hn, ha, hc, hm⟩ := ht.lanes t.toTimelineFields rfl
  have hone : ∀ x : ℚ, 0 ≤ x → x < t.durationMs →
      draft.laid.countP (fun p => (spanOf p).Covers x) = 1 := fun x hx hlt =>
    laid_countP draft hx (hd ▸ hlt)
  refine ⟨hd, ?_, ?_, ?_, ?_, ?_, fun x hx hlt => ?_, fun x hx hlt => ?_, fun x hx hlt => ?_⟩
  · rw [hv, ← positioned_fst 0 draft.paragraphs, List.map_map]
    refine map_eq_of_forall₂ hl.visual fun x clip h => ?_
    have hplayed := h.played
    exact Prod.ext (congrArg Played.sourceMaterialId hplayed) (congrArg Played.durationMs hplayed)
  · rw [hv, lane_played hl.visual]
  · rw [hn, lane_played hl.narration]
  · rw [ha, lane_played hl.ambient]
  · rw [hc, lane_played hl.caption]
  · rw [hv, lane_countP hl.visual, hone x hx hlt]
  · rw [hc, lane_countP hl.caption, hone x hx hlt]
  · rw [hn, ha, hm, List.append_nil, hl.sound_countP, hone x hx hlt]

/-- No constructor refuses a clip or a track of a draft. -/
theorem tracks_of_draft (draft : LocalEditingTimelineDraft) :
    ∃ (v n a c : List TimelineClip) (visual caption : TimelineTrack)
      (narration ambient : List TimelineTrack),
      draft.laid.mapM visualClip = some v ∧
        (draft.laid.filter (·.1.kind = .narrated)).mapM narrationClip = some n ∧
        (draft.laid.filter (·.1.kind = .originalSpeech)).mapM ambientClip = some a ∧
        draft.laid.mapM captionClip = some c ∧
        TimelineTrack.make ⟨"visual".toList, .visual, v⟩ = some visual ∧
        optionalTrack "narration" .narration n = some narration ∧
        optionalTrack "ambient" .ambient a = some ambient ∧
        TimelineTrack.make ⟨"caption".toList, .caption, c⟩ = some caption ∧
        Lanes draft v n a c ∧
        Tracks draft v n a c ([visual] ++ narration ++ ambient ++ [caption]) := by
  obtain ⟨v, n, a, c, hv, hn, ha, hc, hl⟩ := clips_of_draft draft
  have hvisual : TrackFields.Valid ⟨"visual".toList, .visual, v⟩ :=
    lane_valid hl.visual (.refl _) (laid_ne_nil draft) (by decide) (laid_visualLayout hl.visual)
  have hcaption : TrackFields.Valid ⟨"caption".toList, .caption, c⟩ :=
    lane_valid hl.caption (.refl _) (laid_ne_nil draft) (by decide)
      (laid_orderedLayout hl.caption (.refl _))
  obtain ⟨narration, hnarration, hnlane⟩ : ∃ tracks,
      optionalTrack "narration" .narration n = some tracks ∧
        OptionalLane "narration" .narration n tracks :=
    optionalTrack_eq fun hne => lane_valid hl.narration List.filter_sublist
      (lane_ne_nil hl.narration hne) (by decide)
      (laid_orderedLayout hl.narration List.filter_sublist)
  obtain ⟨ambient, hambient, halane⟩ : ∃ tracks,
      optionalTrack "ambient" .ambient a = some tracks ∧
        OptionalLane "ambient" .ambient a tracks :=
    optionalTrack_eq fun hne => lane_valid hl.ambient List.filter_sublist
      (lane_ne_nil hl.ambient hne) (by decide)
      (laid_orderedLayout hl.ambient List.filter_sublist)
  exact ⟨v, n, a, c, ⟨_, hvisual⟩, ⟨_, hcaption⟩, narration, ambient, hv, hn, ha, hc,
    TimelineTrack.make_eq_some.2 rfl, hnarration, hambient, TimelineTrack.make_eq_some.2 rfl, hl,
    tracks_of_lanes rfl hnlane halane rfl⟩

/-- **The first cut.** Every draft becomes a timeline, with one picture, one caption and one
sound at each instant. -/
theorem draft_timeline (draft : LocalEditingTimelineDraft) (timelineId : TimelineId)
    (projectId : EditingProjectId) (createdAt : Time) :
    ∃ t, createLocalEditingTimeline draft timelineId projectId createdAt = some t ∧
      t.CutOf draft := by
  obtain ⟨v, n, a, c, visual, caption, narration, ambient, hv, hn, ha, hc, hvtrack, hnarration,
    hambient, hctrack, hl, ht⟩ := tracks_of_draft draft
  have hvalid := cut_valid hl ht timelineId projectId createdAt
  refine ⟨⟨_, hvalid⟩, ?_, cutOf_lanes hl ht rfl⟩
  unfold createLocalEditingTimeline
  dsimp only [bind]
  rw [hv, Option.bind_some, hn, Option.bind_some, ha, Option.bind_some, hc, Option.bind_some,
    hvtrack, Option.bind_some, hnarration, Option.bind_some, hambient, Option.bind_some, hctrack,
    Option.bind_some]
  exact Timeline.make_valid hvalid

end
end AutomationTool.Editing
