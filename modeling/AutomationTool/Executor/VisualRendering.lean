import AutomationTool.Core.FilterGraph
import AutomationTool.Executor.FrameGrid

/-!
# The picture's filter graph

`compile_visual_ffmpeg_command` cuts every clip to its frames and joins the clips: all at
once where there are only cuts, else one after another with `xfade`; captions are laid over
the result. A source path is any text, and a frame count stands for a stream.

* `rendered_exactly`: the grid of a plan is exact, and the graph makes the film's frames.
-/
namespace AutomationTool.Executor

open LocalEditing VisualFrameGridClip

abbrev Path := String

/-- mirrors visual_rendering.py:46-51, without the
rejections of the tools and of the output path -/
inductive VisualFilterGraphRejection where
  | invalidPlan | invalidBindings | invalidCaptions
  deriving DecidableEq, Repr

/-- mirrors visual_rendering.py:86-102 -/
structure VisualRenderSourceBinding where
  materialId : Editing.Uuid
  kind : MaterialKind
  sourcePath : Path
  deriving DecidableEq, Repr

/-! ## Captions -/

/-- mirrors caption_overlay.py:70-90 -/
structure VisualCaptionOverlayBinding where
  sequence : Nat
  startFrame : Nat
  endFrame : Nat
  sourcePath : Path
  sequence_pos : 1 ≤ sequence
  sequence_le : sequence ≤ maxCaptionCues
  start_lt : startFrame < endFrame

structure VisualCaptionOverlaySetFields where
  projectId : Editing.Uuid
  timelineId : Editing.Uuid
  timelineRevision : Nat
  outputWidth : Nat
  outputHeight : Nat
  outputFps : Nat
  durationMs : Nat
  targetFrames : Nat
  captions : List VisualCaptionOverlayBinding

/-- The loop over the captions: one after another, inside the film. -/
def validOverlayLayout (targetFrames previousEnd : Nat) : List VisualCaptionOverlayBinding → Bool
  | [] => true
  | caption :: captions =>
    previousEnd ≤ caption.startFrame ∧ caption.endFrame ≤ targetFrames ∧
      validOverlayLayout targetFrames caption.endFrame captions

/-- `VisualCaptionOverlaySet.__post_init__`.
mirrors caption_overlay.py:109-160 -/
structure VisualCaptionOverlaySetFields.Valid (s : VisualCaptionOverlaySetFields) : Prop where
  projectId : isCanonicalUuid4 s.projectId = true
  timelineId : isCanonicalUuid4 s.timelineId = true
  revision_pos : 1 ≤ s.timelineRevision
  width : validOutputSide s.outputWidth = true
  height : validOutputSide s.outputHeight = true
  fps_ge : minOutputFps ≤ s.outputFps
  fps_le : s.outputFps ≤ maxOutputFps
  duration_ge : minRenderDurationMs ≤ s.durationMs
  duration_le : s.durationMs ≤ maxRenderDurationMs
  target : s.targetFrames = frameAt s.durationMs s.outputFps
  length_le : s.captions.length ≤ maxCaptionCues
  sequences : Numbered (s.captions.map (·.sequence))
  layout : validOverlayLayout s.targetFrames 0 s.captions = true

structure VisualCaptionOverlaySet extends VisualCaptionOverlaySetFields where
  valid : toVisualCaptionOverlaySetFields.Valid

/-! ## Filters -/

/-- The filters of the graph. Times of an `xfade` are nanoseconds. -/
inductive VideoFilter where
  | trimWindow (startMs endMs : Nat)
  | restart
  | scale (width height : Nat)
  | crop (width height : Nat)
  | rate (fps : Nat)
  | tpad
  | settb (fps : Nat)
  | trimFrames (frames : Nat)
  | number
  | setsar
  | format (pixels : String)
  | concat (streams : Nat)
  | xfade (transition : String) (duration offset : Nat)
  | overlay (bottomMargin startFrame lastFrame : Nat)
  deriving DecidableEq, Repr

abbrev VideoChain := List VideoFilter

abbrev VideoPart := FilterPart (List Char) VideoChain

/-- `f"{n:0{width}d}"`. -/
def zeroPadded (width n : Nat) : String :=
  "".pushn '0' (width - (toString n).length) ++ toString n

/-- `_seconds`. -/
def seconds (milliseconds : Nat) : String :=
  s!"{milliseconds / 1000}.{zeroPadded 3 (milliseconds % 1000)}"

/-- The whole nanoseconds of `_frame_seconds`.
mirrors visual_rendering.py:272-275 -/
def frameNanoseconds (frames fps : Nat) : Nat := (frames * 1000000000 + fps / 2) / fps

/-- The text `_frame_seconds` makes of them. -/
def nanosecondsText (nanoseconds : Nat) : String :=
  s!"{nanoseconds / 1000000000}.{zeroPadded 9 (nanoseconds % 1000000000)}"

/-- The text of a filter in the graph. -/
def VideoFilter.text : VideoFilter → String
  | .trimWindow startMs endMs => s!"trim=start={seconds startMs}:end={seconds endMs}"
  | .restart => "setpts=PTS-STARTPTS"
  | .scale width height => s!"scale=w={width}:h={height}:force_original_aspect_ratio=increase"
  | .crop width height => s!"crop=w={width}:h={height}:x=(in_w-out_w)/2:y=(in_h-out_h)/2"
  | .rate fps => s!"fps={fps}"
  | .tpad => "tpad=stop_mode=clone:stop=1"
  | .settb fps => s!"settb=1/{fps}"
  | .trimFrames frames => s!"trim=end_frame={frames}"
  | .number => "setpts=N"
  | .setsar => "setsar=1"
  | .format pixels => s!"format={pixels}"
  | .concat streams => s!"concat=n={streams}:v=1:a=0"
  | .xfade transition duration offset =>
    s!"xfade=transition={transition}:duration={nanosecondsText duration}" ++
      s!":offset={nanosecondsText offset}"
  | .overlay bottomMargin startFrame lastFrame =>
    s!"overlay=x=(main_w-overlay_w)/2:y=max(0\\,main_h-overlay_h-{bottomMargin}):" ++
      s!"enable=between(n\\,{startFrame}\\,{lastFrame}):eof_action=pass:repeatlast=0"

def VideoPart.text (p : VideoPart) : String :=
  FilterPart.text (fun input => s!"{input}:v:0") (fun chain => ",".intercalate (chain.map (·.text))) p

/-- The nearest frame to an instant. -/
def nearestFrame (nanoseconds fps : Nat) : Nat :=
  (nanoseconds * fps + 500000000) / 1000000000

/-- How many frames a filter makes of streams of so many frames. `trim` cuts to a length,
`concat` adds lengths; `xfade` is defined where its offset and its duration end with the
first stream, and runs from its offset for the second. -/
def VideoFilter.frames (fps : Nat) : VideoFilter → List Nat → Option (List Nat)
  | .trimFrames frames, [_] => some [frames]
  | .concat streams, inputs => if inputs.length = streams then some [inputs.sum] else none
  | .xfade _ duration offset, [first, second] =>
    if nearestFrame offset fps + nearestFrame duration fps = first then
      some [nearestFrame offset fps + second]
    else none
  | .overlay .., [main, _] => some [main]
  | .trimWindow .., [stream] | .restart, [stream] | .scale .., [stream] | .crop .., [stream]
  | .rate _, [stream] | .tpad, [stream] | .settb _, [stream] | .number, [stream]
  | .setsar, [stream] | .format _, [stream] => some [stream]
  | _, _ => none

def VideoChain.frames (fps : Nat) (chain : VideoChain) (streams : List Nat) : Option (List Nat) :=
  chain.foldlM (fun streams filter => filter.frames fps streams) streams

/-! ## The graph -/

def clipLabel (sequence : Nat) : List Char := numbered "v".toList (some sequence)
def joinedLabel (sequence : Nat) : List Char := numbered "out".toList (some sequence)
def allLabel : List Char := numbered "outv".toList none
def captionLabel (sequence : Nat) : List Char := numbered "c".toList (some sequence)
def captionedLabel (sequence : Nat) : List Char := numbered "outc".toList (some sequence)

/-- `_clip_filter`; only a video has a source window, and it has both ends.
mirrors visual_rendering.py:306-338 -/
def clipFilter (clip : VisualFrameGridClip) (inputIndex width height fps : Nat) : VideoPart where
  inputs := [.stream inputIndex]
  filter :=
    (if clip.kind = .video then
      [.trimWindow (clip.sourceInMs.getD 0) (clip.sourceOutMs.getD 0)] else []) ++
    [.restart, .scale width height, .crop width height, .rate fps] ++
    (if clip.kind = .video then [.tpad] else []) ++
    [.settb fps, .trimFrames clip.frameCount, .number, .setsar, .format "yuv420p"]
  outputs := [clipLabel clip.sequence]

def clipParts (width height fps inputIndex : Nat) : List VisualFrameGridClip → List VideoPart
  | [] => []
  | clip :: clips =>
    clipFilter clip inputIndex width height fps :: clipParts width height fps (inputIndex + 1) clips

/-- `_XFADE_TRANSITIONS`. -/
def xfadeTransition : VisualTransitionKind → String
  | .fade => "fade"
  | .dissolve => "dissolve"
  | .wipe => "wipeleft"

def joinFilter (fps : Nat) (clip : VisualFrameGridClip) : VideoChain :=
  match clip.transitionKind with
  | none => [.concat 2, .settb fps]
  | some kind =>
    [.xfade (xfadeTransition kind) (frameNanoseconds clip.transitionFrames fps)
      (frameNanoseconds clip.startFrame fps)]

/-- The clips one after another, and the label of the result.
mirrors visual_rendering.py:394-410 -/
def joinInTurn (fps : Nat) (outputLabel : List Char) :
    List VisualFrameGridClip → List VideoPart × List Char
  | [] => ([], outputLabel)
  | clip :: clips =>
    let next := joinedLabel clip.sequence
    let rest := joinInTurn fps next clips
    (⟨[.label outputLabel, .label (clipLabel clip.sequence)], joinFilter fps clip, [next]⟩ :: rest.1,
      rest.2)

/-- mirrors visual_rendering.py:388-410 -/
def joinClips (fps : Nat) (clips : List VisualFrameGridClip) : List VideoPart × List Char :=
  let hasTransitions := clips.any (·.transitionKind.isSome)
  match clips with
  | [] => ([], [])
  | first :: rest =>
    if 1 < clips.length ∧ hasTransitions = false then
      ([⟨clips.map fun clip => .label (clipLabel clip.sequence), [.concat clips.length], [allLabel]⟩],
        allLabel)
    else if hasTransitions then joinInTurn fps (clipLabel first.sequence) rest
    else ([], clipLabel first.sequence)

/-- Each caption over what is there so far.
mirrors visual_rendering.py:425-456 -/
def overlayCaptions (height fps targetFrames inputIndex : Nat) (outputLabel : List Char) :
    List VisualCaptionOverlayBinding → List VideoPart × List Char
  | [] => ([], outputLabel)
  | caption :: captions =>
    let next := captionedLabel caption.sequence
    let rest := overlayCaptions height fps targetFrames (inputIndex + 1) next captions
    (⟨[.stream inputIndex], [.rate fps, .settb fps, .trimFrames targetFrames, .number, .format "rgba"],
        [captionLabel caption.sequence]⟩ ::
      ⟨[.label outputLabel, .label (captionLabel caption.sequence)],
        [.overlay ((height * 8 + 50) / 100) caption.startFrame (caption.endFrame - 1)], [next]⟩ ::
      rest.1, rest.2)

/-! ## The command -/

/-- One input of the command line; a still is looped at the film's rate. -/
structure FfmpegInput where
  looped : Option Nat
  path : Path
  deriving DecidableEq, Repr

def FfmpegInput.argv (input : FfmpegInput) : List String :=
  input.looped.elim [] (fun fps => ["-loop", "1", "-framerate", toString fps]) ++ ["-i", input.path]

/-- mirrors visual_rendering.py:108-117; of the command
line, the inputs and the output label. -/
structure VisualFfmpegCommand where
  inputs : List FfmpegInput
  filterComplex : List VideoPart
  outputLabel : List Char
  targetFrames : Nat
  outputWidth : Nat
  outputHeight : Nat
  outputFps : Nat

/-- The source of each clip, in order: every clip has one of its kind, every source has a
clip, and no material has two.
mirrors visual_rendering.py:243-265,363-369 -/
def bindSources (clips : List VisualFrameGridClip) (sources : List VisualRenderSourceBinding) :
    Except VisualFilterGraphRejection (List VisualRenderSourceBinding) :=
  if sources = [] ∨ ¬(sources.map (·.materialId)).Nodup ∨
      ∃ source ∈ sources, source.materialId ∉ clips.map (·.materialId) then
    .error .invalidBindings
  else clips.mapM fun clip =>
    match sources.find? fun source => source.materialId = clip.materialId with
    | none => .error .invalidBindings
    | some source => if source.kind = clip.kind then .ok source else .error .invalidBindings

def clipInput (fps : Nat) (source : VisualRenderSourceBinding) : FfmpegInput :=
  ⟨if source.kind = .image then some fps else none, source.sourcePath⟩

/-- The captions of this very film.
mirrors visual_rendering.py:412-424 -/
def boundCaptions (grid : VisualFrameGridPlan) :
    Option VisualCaptionOverlaySet →
      Except VisualFilterGraphRejection (List VisualCaptionOverlayBinding)
  | none => .ok []
  | some overlays =>
    if overlays.projectId ≠ grid.projectId ∨ overlays.timelineId ≠ grid.timelineId ∨
        overlays.timelineRevision ≠ grid.timelineRevision ∨
        overlays.outputWidth ≠ grid.outputWidth ∨ overlays.outputHeight ≠ grid.outputHeight ∨
        overlays.outputFps ≠ grid.outputFps ∨ overlays.durationMs ≠ grid.requestedDurationMs ∨
        overlays.targetFrames ≠ grid.targetFrames then
      .error .invalidCaptions
    else .ok overlays.captions

/-- `compile_visual_ffmpeg_command`.
mirrors visual_rendering.py:341-500 -/
def compileVisualFfmpegCommand (plan : VisualRenderPlan) (sources : List VisualRenderSourceBinding)
    (captionOverlays : Option VisualCaptionOverlaySet) :
    Except VisualFilterGraphRejection VisualFfmpegCommand := do
  let grid ← (quantizeVisualRenderPlan plan).mapError fun _ => .invalidPlan
  let bound ← bindSources grid.clips sources
  let joined := joinClips grid.outputFps grid.clips
  let captions ← boundCaptions grid captionOverlays
  let overlaid := overlayCaptions grid.outputHeight grid.outputFps grid.targetFrames
    grid.clips.length joined.2 captions
  .ok {
    inputs := bound.map (clipInput grid.outputFps) ++
      captions.map fun caption => ⟨some grid.outputFps, caption.sourcePath⟩
    filterComplex := clipParts grid.outputWidth grid.outputHeight grid.outputFps 0 grid.clips ++
      joined.1 ++ overlaid.1
    outputLabel := overlaid.2
    targetFrames := grid.targetFrames
    outputWidth := grid.outputWidth
    outputHeight := grid.outputHeight
    outputFps := grid.outputFps }

/-- How many frames the command's graph makes of inputs of any lengths. -/
def VisualFfmpegCommand.frames (command : VisualFfmpegCommand) (material : Nat → Nat) :
    Option Nat := do
  let source (input : Nat) := if input < command.inputs.length then some (material input) else none
  let env ← evalGraph (VideoChain.frames command.outputFps) source (fun _ => none)
    command.filterComplex
  env command.outputLabel

/-! ## Times in the graph -/

/-- A time in nanoseconds is exact enough: it is read back as the frame it was made from. -/
theorem nearestFrame_frameNanoseconds {fps : Nat} (hpos : 0 < fps) (hle : fps ≤ maxOutputFps)
    (frames : Nat) : nearestFrame (frameNanoseconds frames fps) fps = frames := by
  have hdiv := Nat.div_add_mod (frames * 1000000000 + fps / 2) fps
  have hmod := Nat.mod_lt (frames * 1000000000 + fps / 2) hpos
  unfold nearestFrame frameNanoseconds
  rw [Nat.mul_comm]
  unfold maxOutputFps at hle
  omega

/-! ## The lengths -/

theorem frames_clipFilter (clip : VisualFrameGridClip) (inputIndex width height fps n : Nat) :
    VideoChain.frames fps (clipFilter clip inputIndex width height fps).filter [n] =
      some [clip.frameCount] := by
  unfold clipFilter
  cases clip.kind <;> rfl

section

variable {fps : Nat} {source : Nat → Option Nat} {env : Labels (List Char) Nat}

theorem evalGraph_clipParts {width height inputIndex : Nat} {clips : List VisualFrameGridClip}
    (hsource : ∀ k < clips.length, ∃ n, source (inputIndex + k) = some n) :
    evalGraph (VideoChain.frames fps) source env (clipParts width height fps inputIndex clips) =
      some (env.setAll (clips.map fun clip => (clipLabel clip.sequence, clip.frameCount))) := by
  induction clips generalizing inputIndex env with
  | nil => rfl
  | cons clip clips ih =>
    obtain ⟨n, hn⟩ := hsource 0 (Nat.zero_lt_succ _)
    have hpart : evalPart (VideoChain.frames fps) source env
        (clipFilter clip inputIndex width height fps) =
        some (env.set (clipLabel clip.sequence) clip.frameCount) := by
      exact evalPart_single (mapM_eq_some.2 (.cons hn .nil))
        (frames_clipFilter clip inputIndex width height fps n)
    rw [clipParts, evalGraph_cons hpart, List.map_cons, Labels.setAll_cons]
    refine ih fun k hk => ?_
    have := hsource (k + 1) (Nat.succ_lt_succ hk)
    rwa [← Nat.add_assoc, Nat.add_right_comm] at this

/-- One clip joined to what is there so far. -/
theorem frames_joinFilter (hpos : 0 < fps) (hle : fps ≤ maxOutputFps) {clip : VisualFrameGridClip}
    {length : Nat} (hlink : clip.startFrame + clip.transitionFrames = length)
    (hcut : clip.transitionKind = none → clip.transitionFrames = 0) :
    VideoChain.frames fps (joinFilter fps clip) [length, clip.frameCount] =
      some [clip.endFrame] := by
  unfold joinFilter
  cases hkind : clip.transitionKind with
  | none =>
    have hstart : clip.startFrame = length := by
      have := hcut hkind
      omega
    rw [endFrame, hstart]
    rfl
  | some kind =>
    simp only [VideoChain.frames, List.foldlM_cons, List.foldlM_nil, VideoFilter.frames,
      nearestFrame_frameNanoseconds hpos hle, if_pos hlink]
    rfl

theorem clipLabel_ne_joinedLabel (m n : Nat) : clipLabel m ≠ joinedLabel n := by
  intro h
  exact absurd ((numbered_inj (by decide +kernel) (by decide +kernel)).1 h).1 (by decide +kernel)

theorem evalGraph_joinInTurn (hpos : 0 < fps) (hle : fps ≤ maxOutputFps) {outputLabel : List Char}
    {length tail : Nat} {clips : List VisualFrameGridClip} (hout : env outputLabel = some length)
    (hclips : ∀ clip ∈ clips, env (clipLabel clip.sequence) = some clip.frameCount)
    (hcut : ∀ clip ∈ clips, clip.transitionKind = none → clip.transitionFrames = 0)
    (hchain : Span.Chained length tail (clips.map (·.span))) :
    ∃ env', evalGraph (VideoChain.frames fps) source env (joinInTurn fps outputLabel clips).1 =
        some env' ∧
      env' (joinInTurn fps outputLabel clips).2 =
        some (Span.lastStop length (clips.map (·.span))) := by
  induction clips generalizing env outputLabel length tail with
  | nil => exact ⟨env, rfl, hout⟩
  | cons clip clips ih =>
    obtain ⟨-, -, hlink, hrest⟩ := hchain
    have hpart : evalPart (VideoChain.frames fps) source env
        ⟨[.label outputLabel, .label (clipLabel clip.sequence)], joinFilter fps clip,
          [joinedLabel clip.sequence]⟩ =
        some (env.set (joinedLabel clip.sequence) clip.endFrame) := by
      exact evalPart_single
        (mapM_eq_some.2 (.cons hout (.cons (hclips clip List.mem_cons_self) .nil)))
        (frames_joinFilter hpos hle hlink (hcut clip List.mem_cons_self))
    rw [joinInTurn, evalGraph_cons hpart]
    refine ih (Labels.set_same _ _ _) (fun c hc => ?_)
      (fun c hc => hcut c (List.mem_cons_of_mem _ hc)) hrest
    rw [Labels.set_of_ne (clipLabel_ne_joinedLabel _ _)]
    exact hclips c (List.mem_cons_of_mem _ hc)

theorem evalGraph_joinClips (hpos : 0 < fps) (hle : fps ≤ maxOutputFps)
    {clips : List VisualFrameGridClip} (hne : clips ≠ [])
    (hclips : ∀ clip ∈ clips, env (clipLabel clip.sequence) = some clip.frameCount)
    (hcut : ∀ clip ∈ clips, clip.transitionKind = none → clip.transitionFrames = 0)
    (hchain : Span.Chained 0 0 (clips.map (·.span))) :
    ∃ env', evalGraph (VideoChain.frames fps) source env (joinClips fps clips).1 = some env' ∧
      env' (joinClips fps clips).2 = some (Span.lastStop 0 (clips.map (·.span))) := by
  obtain ⟨first, rest, rfl⟩ := List.exists_cons_of_ne_nil hne
  have hfirst : first.endFrame = first.frameCount := by
    have := hchain.2.2.1
    simp only [span_start, span_overlap] at this
    unfold endFrame
    omega
  have houtFirst : env (clipLabel first.sequence) = some first.endFrame :=
    hfirst ▸ hclips first List.mem_cons_self
  unfold joinClips
  dsimp only
  split
  next hall =>
    -- only cuts: nothing overlaps, so the film is as long as its clips together
    have hzero : ((first :: rest).map (·.transitionFrames)).sum = 0 := by
      refine List.sum_eq_zero fun n hn => ?_
      obtain ⟨clip, hclip, rfl⟩ := List.mem_map.1 hn
      have hkind := List.any_eq_false.1 hall.2 clip hclip
      exact hcut clip hclip (by simpa using hkind)
    have hsum := hchain.sum
    rw [List.map_map, List.map_map, Nat.zero_add] at hsum
    have hlength : Span.lastStop 0 ((first :: rest).map (·.span)) =
        ((first :: rest).map (·.frameCount)).sum :=
      Nat.add_right_cancel (hsum.trans (congrArg (_ + ·) hzero).symm)
    have hinputs : ((first :: rest).map fun clip => Pad.label (clipLabel clip.sequence)).mapM
        (Pad.value source env) = some ((first :: rest).map (·.frameCount)) := by
      refine mapM_eq_some.2 ?_
      rw [List.forall₂_map_left_iff, List.forall₂_map_right_iff, List.forall₂_same]
      exact hclips
    have hpart : evalPart (VideoChain.frames fps) source env
        ⟨(first :: rest).map fun clip => .label (clipLabel clip.sequence),
          [.concat (first :: rest).length], [allLabel]⟩ =
        some (env.set allLabel (Span.lastStop 0 ((first :: rest).map (·.span)))) := by
      refine evalPart_single hinputs ?_
      rw [hlength]
      simp [VideoChain.frames, VideoFilter.frames]
    exact ⟨env.set allLabel _, by rw [evalGraph_cons hpart, evalGraph_nil], Labels.set_same _ _ _⟩
  next =>
    split
    · exact evalGraph_joinInTurn hpos hle houtFirst
        (fun clip hclip => hclips clip (List.mem_cons_of_mem _ hclip))
        (fun clip hclip => hcut clip (List.mem_cons_of_mem _ hclip)) hchain.2.2.2
    next hall hnone =>
      have hrest : rest = [] := by
        by_contra hrest
        have := List.length_pos_iff.2 hrest
        exact hall ⟨by simp only [List.length_cons]; omega, by simpa using hnone⟩
      subst hrest
      exact ⟨env, rfl, houtFirst⟩

theorem evalGraph_overlayCaptions {height targetFrames inputIndex length : Nat}
    {outputLabel : List Char} {captions : List VisualCaptionOverlayBinding}
    (hsource : ∀ k < captions.length, ∃ n, source (inputIndex + k) = some n)
    (hout : env outputLabel = some length) (hlabel : ∀ n, outputLabel ≠ captionLabel n) :
    ∃ env', evalGraph (VideoChain.frames fps) source env
        (overlayCaptions height fps targetFrames inputIndex outputLabel captions).1 = some env' ∧
      env' (overlayCaptions height fps targetFrames inputIndex outputLabel captions).2 =
        some length := by
  induction captions generalizing inputIndex env outputLabel with
  | nil => exact ⟨env, rfl, hout⟩
  | cons caption captions ih =>
    obtain ⟨n, hn⟩ := hsource 0 (Nat.zero_lt_succ _)
    have hstream : evalPart (VideoChain.frames fps) source env
        ⟨[.stream inputIndex], [.rate fps, .settb fps, .trimFrames targetFrames, .number,
          .format "rgba"], [captionLabel caption.sequence]⟩ =
        some (env.set (captionLabel caption.sequence) targetFrames) :=
      evalPart_single (mapM_eq_some.2 (.cons hn .nil)) rfl
    have hmain : env.set (captionLabel caption.sequence) targetFrames outputLabel = some length := by
      rw [Labels.set_of_ne (hlabel _), hout]
    have hoverlay : evalPart (VideoChain.frames fps) source
        (env.set (captionLabel caption.sequence) targetFrames)
        ⟨[.label outputLabel, .label (captionLabel caption.sequence)],
          [.overlay ((height * 8 + 50) / 100) caption.startFrame (caption.endFrame - 1)],
          [captionedLabel caption.sequence]⟩ =
        some ((env.set (captionLabel caption.sequence) targetFrames).set
          (captionedLabel caption.sequence) length) :=
      evalPart_single (mapM_eq_some.2 (.cons hmain (.cons (Labels.set_same _ _ _) .nil))) rfl
    rw [overlayCaptions, evalGraph_cons hstream, evalGraph_cons hoverlay]
    refine ih (fun k hk => ?_) (Labels.set_same _ _ _) fun m h => ?_
    · have := hsource (k + 1) (Nat.succ_lt_succ hk)
      rwa [← Nat.add_assoc, Nat.add_right_comm] at this
    · exact absurd ((numbered_inj (by decide +kernel) (by decide +kernel)).1 h).1 (by decide +kernel)

end

/-! ## The film -/

/-- A frame grid that is exact for its plan. -/
structure VisualFrameGridPlan.Exact (plan : VisualRenderPlan) (grid : VisualFrameGridPlan) :
    Prop where
  target : grid.targetFrames = frameAt plan.durationMs plan.outputFps
  grids : List.Forall₂ (Grids plan.outputFps) plan.clips grid.clips
  total : grid.targetFrames + (grid.clips.map (·.transitionFrames)).sum =
    (grid.clips.map (·.frameCount)).sum
  neighbours : ∀ (i : Nat) (hi : i + 1 < grid.clips.length),
    grid.clips[i + 1].startFrame + grid.clips[i + 1].transitionFrames = grid.clips[i].endFrame
  rounded : List.Forall₂ (fun clip g =>
    |(g.frameCount : ℚ) - clip.durationMs * plan.outputFps / 1000| < 1) plan.clips grid.clips
  /-- The transition into a clip is shorter than the clip. -/
  incoming : ∀ g ∈ grid.clips, g.transitionFrames < g.frameCount
  /-- What the transitions at its two ends take of a clip leaves some of it. -/
  outgoing : ∀ (i : Nat) (hi : i + 1 < grid.clips.length),
    grid.clips[i].transitionFrames + grid.clips[i + 1].transitionFrames < grid.clips[i].frameCount

theorem quantizeVisualRenderPlan_eq_ok {plan : VisualRenderPlan} {grid : VisualFrameGridPlan}
    (h : quantizeVisualRenderPlan plan = .ok grid) :
    quantizeClips plan.outputFps 0 0 plan.clips = .ok grid.clips ∧
      grid.outputFps = plan.outputFps ∧
      grid.targetFrames = frameAt plan.durationMs plan.outputFps := by
  obtain ⟨clips, hclips, h⟩ := bind_eq_ok.1 h
  cases h
  exact ⟨hclips, rfl, rfl⟩

theorem grid_chained {plan : VisualRenderPlan} {grid : VisualFrameGridPlan}
    (h : quantizeVisualRenderPlan plan = .ok grid) :
    Span.Chained 0 0 (grid.clips.map (·.span)) ∧
      Span.lastStop 0 (grid.clips.map (·.span)) = grid.targetFrames := by
  obtain ⟨hclips, -, htarget⟩ := quantizeVisualRenderPlan_eq_ok h
  rw [← frameAt_zero plan.outputFps] at hclips
  have hchain := quantizeClips_chained plan.valid.layout (by simpa using hclips)
  rw [frameAt_zero] at hchain
  rw [htarget]
  exact hchain

theorem grid_exact {plan : VisualRenderPlan} {grid : VisualFrameGridPlan}
    (h : quantizeVisualRenderPlan plan = .ok grid) : grid.Exact plan := by
  obtain ⟨hclips, -, htarget⟩ := quantizeVisualRenderPlan_eq_ok h
  obtain ⟨hchain, hlast⟩ := grid_chained h
  have hgrids := quantizeClips_grids hclips
  have hincoming : ∀ g ∈ grid.clips, g.transitionFrames < g.frameCount :=
    fun g hg => hchain.overlap_lt _ (List.mem_map_of_mem hg)
  have hnext : ∀ (i : Nat) (hi : i + 1 < grid.clips.length),
      (grid.clips[i + 1].transitionFrames = 0 ∨ grid.clips[i + 1].transitionFrames <
        grid.clips[i].frameCount - grid.clips[i].transitionFrames) ∧
      grid.clips[i + 1].startFrame + grid.clips[i + 1].transitionFrames =
        grid.clips[i].endFrame := by
    intro i hi
    have := hchain.next (i := i) (by simpa using hi)
    simpa only [List.getElem_map, span_overlap, span_tail, span_start, span_stop] using this
  refine ⟨htarget, hgrids, ?_, fun i hi => (hnext i hi).2, ?_, hincoming, fun i hi => ?_⟩
  · have hsum := hchain.sum
    rw [hlast, List.map_map, List.map_map, Nat.zero_add] at hsum
    exact hsum
  · exact hgrids.imp fun _ _ hg => hg.abs_frameCount_sub_lt
  · have hown := hincoming grid.clips[i] (List.getElem_mem _)
    have := (hnext i hi).1
    omega

theorem bindSources_length {clips : List VisualFrameGridClip}
    {sources bound : List VisualRenderSourceBinding} (h : bindSources clips sources = .ok bound) :
    bound.length = clips.length := by
  unfold bindSources at h
  split at h
  · cases h
  · exact (mapM_eq_ok.1 h).length_eq.symm

theorem joinInTurn_label {fps : Nat} {outputLabel : List Char} {n : Nat}
    (hlabel : outputLabel ≠ captionLabel n) (clips : List VisualFrameGridClip) :
    (joinInTurn fps outputLabel clips).2 ≠ captionLabel n := by
  induction clips generalizing outputLabel with
  | nil => exact hlabel
  | cons clip clips ih =>
    refine ih fun h => ?_
    exact absurd ((numbered_inj (by decide +kernel) (by decide +kernel)).1 h).1 (by decide +kernel)

theorem joinClips_label (fps : Nat) (clips : List VisualFrameGridClip) (n : Nat) :
    (joinClips fps clips).2 ≠ captionLabel n := by
  have hclip (m : Nat) : clipLabel m ≠ captionLabel n := fun h =>
    absurd ((numbered_inj (by decide +kernel) (by decide +kernel)).1 h).1 (by decide +kernel)
  cases clips with
  | nil => exact List.cons_ne_nil _ _ ∘ Eq.symm
  | cons first rest =>
    unfold joinClips
    dsimp only
    split
    · intro h
      exact absurd ((numbered_inj (by decide +kernel) (by decide +kernel)).1 h).1 (by decide +kernel)
    · split
      · exact joinInTurn_label (hclip _) rest
      · exact hclip _

theorem grid_sequences_nodup {plan : VisualRenderPlan} {grid : VisualFrameGridPlan}
    (h : grid.Exact plan) :
    (grid.clips.map fun clip => clipLabel clip.sequence).Nodup := by
  have hsequences : grid.clips.map (·.sequence) = plan.clips.map (·.sequence) :=
    map_eq_of_forall₂ h.grids fun _ _ hg => hg.sequence
  have hnodup : (grid.clips.map (·.sequence)).Nodup := by
    rw [hsequences, plan.valid.sequences]
    exact List.nodup_range'
  have hinj : Function.Injective clipLabel := fun m n hmn =>
    Option.some.inj ((numbered_inj (by decide +kernel) (by decide +kernel)).1 hmn).2
  have := hnodup.map hinj
  rwa [List.map_map] at this

/-- **The film has its frames.** The grid of a plan is exact, and whatever the lengths of the
materials, the graph compiled for it makes the film's frames. -/
theorem rendered_exactly (plan : VisualRenderPlan) (grid : VisualFrameGridPlan)
    (h : quantizeVisualRenderPlan plan = .ok grid) :
    grid.Exact plan ∧
      ∀ sources captionOverlays command,
        compileVisualFfmpegCommand plan sources captionOverlays = .ok command →
          command.targetFrames = grid.targetFrames ∧
            ∀ material, command.frames material = some grid.targetFrames := by
  have hexact := grid_exact h
  refine ⟨hexact, fun sources captionOverlays command hcommand => ?_⟩
  unfold compileVisualFfmpegCommand at hcommand
  rw [h] at hcommand
  obtain ⟨grid', hgrid, hcommand⟩ := bind_eq_ok.1 hcommand
  cases hgrid
  obtain ⟨bound, hbound, hcommand⟩ := bind_eq_ok.1 hcommand
  obtain ⟨captions, -, hcommand⟩ := bind_eq_ok.1 hcommand
  cases hcommand
  refine ⟨rfl, fun material => ?_⟩
  obtain ⟨-, hfps, -⟩ := quantizeVisualRenderPlan_eq_ok h
  obtain ⟨hchain, hlast⟩ := grid_chained h
  have hlength := bindSources_length hbound
  have hpos : 0 < grid.outputFps := by
    have := plan.valid.fps_ge
    simp only [minOutputFps] at this
    omega
  have hle : grid.outputFps ≤ maxOutputFps := hfps ▸ plan.valid.fps_le
  have hne : grid.clips ≠ [] := by
    have hlen := hexact.grids.length_eq
    have := plan.valid.nonempty
    exact List.length_pos_iff.1 (by omega)
  have hcut : ∀ clip ∈ grid.clips, clip.transitionKind = none → clip.transitionFrames = 0 := by
    intro g hg hkind
    obtain ⟨clip, -, hclip⟩ := forall₂_mem_right hexact.grids hg
    exact hclip.transition.2 (hclip.transitionKind ▸ hkind)
  unfold VisualFfmpegCommand.frames
  dsimp only
  set inputs := bound.map (clipInput grid.outputFps) ++
    captions.map fun caption => (⟨some grid.outputFps, caption.sourcePath⟩ : FfmpegInput)
  have hinputs : inputs.length = grid.clips.length + captions.length := by
    simp [inputs, hlength]
  set source := fun input => if input < inputs.length then some (material input) else none
  have hsource : ∀ k < grid.clips.length + captions.length, ∃ n, source k = some n :=
    fun k hk => ⟨material k, if_pos (hinputs ▸ hk)⟩
  -- every clip is cut to its frames
  set cut : Labels (List Char) Nat := Labels.setAll (fun _ => none)
    (grid.clips.map fun clip => (clipLabel clip.sequence, clip.frameCount))
  have hcuts : evalGraph (VideoChain.frames grid.outputFps) source (fun _ => none)
      (clipParts grid.outputWidth grid.outputHeight grid.outputFps 0 grid.clips) = some cut :=
    evalGraph_clipParts fun k hk => hsource (0 + k) (by omega)
  have hclips : ∀ clip ∈ grid.clips, cut (clipLabel clip.sequence) = some clip.frameCount := by
    intro clip hclip
    refine Labels.setAll_of_mem (List.mem_map_of_mem hclip) ?_
    rw [List.map_map]
    exact grid_sequences_nodup hexact
  -- joined, and the captions laid over
  obtain ⟨joined, hjoined, hfilm⟩ := evalGraph_joinClips hpos hle hne hclips hcut hchain
  rw [hlast] at hfilm
  have hcaptions : ∀ k < captions.length, ∃ n, source (grid.clips.length + k) = some n :=
    fun k hk => hsource _ (by omega)
  obtain ⟨overlaid, hoverlaid, hout⟩ :
      ∃ overlaid, evalGraph (VideoChain.frames grid.outputFps) source joined
          (overlayCaptions grid.outputHeight grid.outputFps grid.targetFrames grid.clips.length
            (joinClips grid.outputFps grid.clips).2 captions).1 = some overlaid ∧
        overlaid (overlayCaptions grid.outputHeight grid.outputFps grid.targetFrames
          grid.clips.length (joinClips grid.outputFps grid.clips).2 captions).2 =
          some grid.targetFrames :=
    evalGraph_overlayCaptions hcaptions hfilm (joinClips_label _ _)
  rw [evalGraph_append ((evalGraph_append hcuts _).trans hjoined), hoverlaid]
  exact hout

namespace Fading

def uuid (n : Nat) : Editing.Uuid := 4 * 2 ^ 76 + 2 * 2 ^ 62 + n

def talk : VisualRenderClip where
  sequence := 1
  materialId := uuid 1
  kind := .video
  startMs := 0
  durationMs := 4010
  sourceInMs := some 250
  sourceOutMs := some 4260
  transitionKind := none
  transitionDurationMs := none
  valid := by decide +kernel

/-- A still that the talk fades into. -/
def still : VisualRenderClip where
  sequence := 2
  materialId := uuid 2
  kind := .image
  startMs := 3510
  durationMs := 2000
  sourceInMs := none
  sourceOutMs := none
  transitionKind := some .fade
  transitionDurationMs := some 500
  valid := by decide +kernel

def plan : VisualRenderPlan where
  projectId := uuid 3
  timelineId := uuid 4
  timelineRevision := 1
  outputWidth := 1280
  outputHeight := 720
  outputFps := 30
  durationMs := 5510
  clips := [talk, still]
  valid := by decide +kernel

def grid : VisualFrameGridPlan where
  projectId := uuid 3
  timelineId := uuid 4
  timelineRevision := 1
  outputWidth := 1280
  outputHeight := 720
  outputFps := 30
  requestedDurationMs := 5510
  targetFrames := 165
  clips := [
    ⟨1, uuid 1, .video, 0, 120, some 250, some 4260, none, 0⟩,
    ⟨2, uuid 2, .image, 105, 60, none, none, some .fade, 15⟩]

def sources : List VisualRenderSourceBinding :=
  [⟨uuid 1, .video, "/talk.mp4"⟩, ⟨uuid 2, .image, "/still.png"⟩]

theorem faded_exactly :
    grid.Exact plan ∧ ∃ command, compileVisualFfmpegCommand plan sources none = .ok command ∧
      command.targetFrames = 165 ∧ ∀ material, command.frames material = some 165 := by
  have hrendered := rendered_exactly plan grid rfl
  exact ⟨hrendered.1, _, rfl, hrendered.2 sources none _ rfl⟩

end Fading
end AutomationTool.Executor
