import AutomationTool.Core.Failing
import AutomationTool.Core.Lane
import AutomationTool.Protocol.LocalRendering

/-!
# The frame grid of a picture plan

`quantize_visual_render_plan` rounds the start and the end of every clip to a frame, each on
its own, and takes lengths and transitions from the rounded values.

* `quantizeClips_chained`: the rounded clips still lie each over the end of the one before,
  and the last ends with the film.
* `quantizeClips_gridClip`: what a clip of the grid keeps of the clip of the plan.
* `abs_frameCount_sub_lt`: rounding moves a length by less than a frame.
* `frameCount_le_window`: the frames of the source window and one cloned frame are enough.
-/
namespace AutomationTool.Executor

open LocalEditing

/-- mirrors visual_rendering.py:27-31 -/
inductive VisualFrameGridRejection where
  | invalidPlan | clipBelowOneFrame | transitionBelowOneFrame | transitionSwallowsClip
  deriving DecidableEq, Repr

/-- mirrors visual_rendering.py:123-133 -/
structure VisualFrameGridClip where
  sequence : Nat
  materialId : Editing.Uuid
  kind : MaterialKind
  startFrame : Nat
  frameCount : Nat
  sourceInMs : Option Nat
  sourceOutMs : Option Nat
  transitionKind : Option VisualTransitionKind
  transitionFrames : Nat
  deriving DecidableEq, Repr

namespace VisualFrameGridClip

def endFrame (g : VisualFrameGridClip) : Nat := g.startFrame + g.frameCount

def span (g : VisualFrameGridClip) : Span := ⟨g.startFrame, g.frameCount, g.transitionFrames⟩

@[simp] theorem span_start (g : VisualFrameGridClip) : g.span.start = g.startFrame := rfl
@[simp] theorem span_length (g : VisualFrameGridClip) : g.span.length = g.frameCount := rfl
@[simp] theorem span_overlap (g : VisualFrameGridClip) : g.span.overlap = g.transitionFrames := rfl
@[simp] theorem span_stop (g : VisualFrameGridClip) : g.span.stop = g.endFrame := rfl
@[simp] theorem span_tail (g : VisualFrameGridClip) :
    g.span.tail = g.frameCount - g.transitionFrames := rfl

end VisualFrameGridClip

/-- mirrors visual_rendering.py:140-150 -/
structure VisualFrameGridPlan where
  projectId : Editing.Uuid
  timelineId : Editing.Uuid
  timelineRevision : Nat
  outputWidth : Nat
  outputHeight : Nat
  outputFps : Nat
  requestedDurationMs : Nat
  targetFrames : Nat
  clips : List VisualFrameGridClip
  deriving DecidableEq, Repr

/-- `_frame_at`: the nearest frame, halves up. -/
def frameAt (milliseconds fps : Nat) : Nat := (milliseconds * fps + 500) / 1000

/-- What becomes of one clip; a transition lasts from its start to the end of the clip before.
The source's difference is negative where this one is zero; both are below one frame. -/
def gridClip (fps previousEndFrame : Nat) (clip : VisualRenderClip) : VisualFrameGridClip where
  sequence := clip.sequence
  materialId := clip.materialId
  kind := clip.kind
  startFrame := frameAt clip.startMs fps
  frameCount := frameAt clip.endMs fps - frameAt clip.startMs fps
  sourceInMs := clip.sourceInMs
  sourceOutMs := clip.sourceOutMs
  transitionKind := clip.transitionKind
  transitionFrames :=
    match clip.transitionKind with
    | none => 0
    | some _ => previousEndFrame - frameAt clip.startMs fps

/-- The loop of `quantize_visual_render_plan`.
mirrors visual_rendering.py:194-227 -/
def quantizeClips (fps previousEndFrame previousTailFrames : Nat) :
    List VisualRenderClip → Except VisualFrameGridRejection (List VisualFrameGridClip)
  | [] => .ok []
  | clip :: clips =>
    let g := gridClip fps previousEndFrame clip
    if g.frameCount < 1 then .error .clipBelowOneFrame
    else if clip.transitionKind ≠ none ∧ g.transitionFrames < 1 then .error .transitionBelowOneFrame
    else if clip.transitionKind ≠ none ∧
        (previousTailFrames ≤ g.transitionFrames ∨ g.frameCount ≤ g.transitionFrames) then
      .error .transitionSwallowsClip
    else do
      let rest ← quantizeClips fps (frameAt clip.endMs fps) (g.frameCount - g.transitionFrames) clips
      .ok (g :: rest)

/-- `quantize_visual_render_plan`; a plan is valid, so validating it again changes nothing.
mirrors visual_rendering.py:188-240 -/
def quantizeVisualRenderPlan (plan : VisualRenderPlan) :
    Except VisualFrameGridRejection VisualFrameGridPlan := do
  let clips ← quantizeClips plan.outputFps 0 0 plan.clips
  .ok {
    projectId := plan.projectId
    timelineId := plan.timelineId
    timelineRevision := plan.timelineRevision
    outputWidth := plan.outputWidth
    outputHeight := plan.outputHeight
    outputFps := plan.outputFps
    requestedDurationMs := plan.durationMs
    targetFrames := frameAt plan.durationMs plan.outputFps
    clips }

/-! ## Rounding -/

theorem frameAt_mono {a b : Nat} (h : a ≤ b) (fps : Nat) : frameAt a fps ≤ frameAt b fps := by
  have := Nat.mul_le_mul_right fps h
  unfold frameAt
  omega

@[simp] theorem frameAt_zero (fps : Nat) : frameAt 0 fps = 0 := by simp [frameAt]

/-- A length between two rounded instants, in thousandths of a frame. -/
theorem frameAt_sub_bounds (startMs durationMs fps : Nat) :
    durationMs * fps < (frameAt (startMs + durationMs) fps - frameAt startMs fps + 1) * 1000 ∧
      (frameAt (startMs + durationMs) fps - frameAt startMs fps) * 1000 < durationMs * fps + 1000 := by
  have hmono := frameAt_mono (Nat.le_add_right startMs durationMs) fps
  unfold frameAt at *
  rw [Nat.add_mul startMs durationMs fps] at *
  generalize startMs * fps = s at *
  generalize durationMs * fps = d at *
  omega

namespace VisualFrameGridClip

/-- What a clip of the grid keeps of the clip of the plan. -/
structure Grids (fps : Nat) (clip : VisualRenderClip) (g : VisualFrameGridClip) : Prop where
  sequence : g.sequence = clip.sequence
  materialId : g.materialId = clip.materialId
  kind : g.kind = clip.kind
  sourceInMs : g.sourceInMs = clip.sourceInMs
  sourceOutMs : g.sourceOutMs = clip.sourceOutMs
  transitionKind : g.transitionKind = clip.transitionKind
  startFrame : g.startFrame = frameAt clip.startMs fps
  endFrame : g.endFrame = frameAt clip.endMs fps
  /-- A cut has no frames, and a transition has some. -/
  transition : g.transitionFrames = 0 ↔ clip.transitionKind = none

variable {fps : Nat} {clip : VisualRenderClip} {g : VisualFrameGridClip}

theorem Grids.bounds (h : Grids fps clip g) :
    clip.durationMs * fps < (g.frameCount + 1) * 1000 ∧
      g.frameCount * 1000 < clip.durationMs * fps + 1000 := by
  have hcount : g.frameCount = frameAt clip.endMs fps - frameAt clip.startMs fps := by
    have hend := h.endFrame
    have hstart := h.startFrame
    unfold VisualFrameGridClip.endFrame at hend
    omega
  rw [hcount]
  exact frameAt_sub_bounds clip.startMs clip.durationMs fps

/-- Rounding moves a length by less than a frame. -/
theorem Grids.abs_frameCount_sub_lt (h : Grids fps clip g) :
    |(g.frameCount : ℚ) - clip.durationMs * fps / 1000| < 1 := by
  obtain ⟨hlower, hupper⟩ := h.bounds
  have hlower : (clip.durationMs : ℚ) * fps < (g.frameCount + 1) * 1000 := by exact_mod_cast hlower
  have hupper : (g.frameCount : ℚ) * 1000 < clip.durationMs * fps + 1000 := by
    exact_mod_cast hupper
  rw [abs_lt]
  constructor <;> linarith

end VisualFrameGridClip

open VisualFrameGridClip

/-! ## The loop -/

theorem gridClip_endFrame (fps previousEndFrame : Nat) (clip : VisualRenderClip) :
    (gridClip fps previousEndFrame clip).endFrame = frameAt clip.endMs fps :=
  Nat.add_sub_cancel' (frameAt_mono (Nat.le_add_right _ _) fps)

/-- What the loop did when it went through. -/
theorem quantizeClips_cons {fps e t : Nat} {clip : VisualRenderClip}
    {clips : List VisualRenderClip} {grid : List VisualFrameGridClip}
    (h : quantizeClips fps e t (clip :: clips) = .ok grid) :
    ∃ rest, grid = gridClip fps e clip :: rest ∧ 1 ≤ (gridClip fps e clip).frameCount ∧
      (clip.transitionKind ≠ none → 1 ≤ (gridClip fps e clip).transitionFrames ∧
        (gridClip fps e clip).transitionFrames < t ∧
        (gridClip fps e clip).transitionFrames < (gridClip fps e clip).frameCount) ∧
      quantizeClips fps (gridClip fps e clip).endFrame (gridClip fps e clip).span.tail clips =
        .ok rest := by
  rw [quantizeClips] at h
  split at h
  · cases h
  next hcount =>
  split at h
  · cases h
  next hsome =>
  split at h
  · cases h
  next hswallow =>
  obtain ⟨rest, hrest, h⟩ := bind_eq_ok.1 h
  cases h
  refine ⟨rest, rfl, by omega, fun htr => ?_, ?_⟩
  · have := not_and.1 hsome htr
    have := not_or.1 (not_and.1 hswallow htr)
    omega
  · rw [gridClip_endFrame]
    exact hrest

theorem transitionDurationMs_eq_none {clip : VisualRenderClip} (h : clip.transitionKind = none) :
    clip.transitionDurationMs = none := by
  have htr := clip.valid.transition
  unfold VisualRenderClipFields.validateTransition at htr
  rw [h] at htr
  cases hd : clip.transitionDurationMs with
  | none => rfl
  | some duration => simp [hd] at htr

/-- One clip against the one before it, on the grid. -/
theorem gridClip_link {fps previousEnd : Nat} {clip : VisualRenderClip}
    (hstart : clip.startMs + clip.overlap = previousEnd) :
    (gridClip fps (frameAt previousEnd fps) clip).startFrame +
      (gridClip fps (frameAt previousEnd fps) clip).transitionFrames = frameAt previousEnd fps := by
  have hle : frameAt clip.startMs fps ≤ frameAt previousEnd fps :=
    frameAt_mono (by omega) fps
  simp only [gridClip]
  cases htr : clip.transitionKind with
  | none =>
    have hov : clip.overlap = 0 := by
      rw [VisualRenderClip.overlap, transitionDurationMs_eq_none htr]
      rfl
    rw [hov, Nat.add_zero] at hstart
    rw [hstart, Nat.add_zero]
  | some kind => exact Nat.add_sub_cancel' hle

theorem quantizeClips_chained {fps D previousEnd previousTail t : Nat}
    {clips : List VisualRenderClip} {grid : List VisualFrameGridClip}
    (hlayout : validVisualLayout D previousEnd previousTail clips = true)
    (h : quantizeClips fps (frameAt previousEnd fps) t clips = .ok grid) :
    Span.Chained (frameAt previousEnd fps) t (grid.map (·.span)) ∧
      Span.lastStop (frameAt previousEnd fps) (grid.map (·.span)) = frameAt D fps := by
  induction clips generalizing previousEnd previousTail t grid with
  | nil =>
    cases h
    rw [of_decide_eq_true hlayout]
    exact ⟨trivial, rfl⟩
  | cons clip clips ih =>
    obtain ⟨-, hstart, hrest⟩ := of_decide_eq_true hlayout
    obtain ⟨rest, rfl, hcount, htr, h⟩ := quantizeClips_cons h
    rw [gridClip_endFrame] at h
    obtain ⟨hchain, hlast⟩ := ih hrest h
    have hlink : (gridClip fps (frameAt previousEnd fps) clip).startFrame +
        (gridClip fps (frameAt previousEnd fps) clip).transitionFrames = frameAt previousEnd fps :=
      gridClip_link hstart
    have hov : (gridClip fps (frameAt previousEnd fps) clip).transitionFrames <
        (gridClip fps (frameAt previousEnd fps) clip).frameCount ∧
        ((gridClip fps (frameAt previousEnd fps) clip).transitionFrames = 0 ∨
          (gridClip fps (frameAt previousEnd fps) clip).transitionFrames < t) := by
      cases hkind : clip.transitionKind with
      | none =>
        have hzero : (gridClip fps (frameAt previousEnd fps) clip).transitionFrames = 0 := by
          simp only [gridClip, hkind]
        omega
      | some kind =>
        have := htr (by simp [hkind])
        omega
    rw [List.map_cons, Span.Chained, Span.lastStop, span_stop, gridClip_endFrame]
    exact ⟨⟨hov.1, hov.2, hlink, hchain⟩, hlast⟩

theorem quantizeClips_grids {fps e t : Nat} {clips : List VisualRenderClip}
    {grid : List VisualFrameGridClip} (h : quantizeClips fps e t clips = .ok grid) :
    List.Forall₂ (Grids fps) clips grid := by
  induction clips generalizing e t grid with
  | nil =>
    cases h
    exact .nil
  | cons clip clips ih =>
    obtain ⟨rest, rfl, -, htr, h⟩ := quantizeClips_cons h
    refine .cons ⟨rfl, rfl, rfl, rfl, rfl, rfl, rfl, gridClip_endFrame fps e clip, ?_⟩ (ih h)
    constructor
    · intro hzero
      by_contra hkind
      have := htr hkind
      omega
    · intro hkind
      simp only [gridClip, hkind]

end AutomationTool.Executor
