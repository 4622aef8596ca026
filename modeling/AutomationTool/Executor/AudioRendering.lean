import AutomationTool.Executor.VisualRendering

/-!
# The sound's filter graph

`bind_audio_render_inputs` leaves out the clips whose material has no sound, and compiles the
rest: every clip is cut, levelled and put at its place, the clips of a bus are mixed, the
narration's bus presses down the one that can be ducked, and what is left is mixed to one.

* `bound_mixes`: the graph is well formed, and every clip that sounds is heard once.
-/
namespace AutomationTool.Executor

open LocalEditing

/-- mirrors audio_rendering.py:20-24 -/
def audioSampleRate : Nat := 48000
def audioDuckThreshold : String := "0.02"
def audioDuckRatio : Nat := 8
def audioDuckAttackMs : Nat := 20
def audioDuckReleaseMs : Nat := 350

/-- mirrors audio_rendering.py:38-41, without the plan
that is no plan -/
inductive AudioRenderBindingRejection where
  | invalidBindings
  | sourceHasNoAudio (materialId : Editing.Uuid)
  deriving DecidableEq, Repr

/-- mirrors audio_rendering.py:82-96 -/
structure AudioRenderSourceBinding where
  materialId : Editing.Uuid
  sourcePath : Path
  hasAudio : Bool
  deriving DecidableEq, Repr

/-! ## Filters -/

/-- The filters of the graph. A volume is in millionths of a decibel, as it is written. -/
inductive AudioFilter where
  | trim (startMs endMs : Nat)
  | restart
  | volume (microDb : Int)
  | resample
  | format
  | delay (milliseconds : Nat)
  | pad (wholeMs : Nat)
  | trimEnd (endMs : Nat)
  | null
  | mix (streams : Nat)
  | split
  | sidechaincompress
  deriving DecidableEq, Repr

abbrev AudioChain := List AudioFilter

abbrev AudioPart := FilterPart (List Char) AudioChain

/-- The nearest whole number, the even one of two. -/
def roundHalfEven (x : ℚ) : Int :=
  if x - ⌊x⌋ < 1 / 2 then ⌊x⌋
  else if 1 / 2 < x - ⌊x⌋ then ⌊x⌋ + 1
  else if ⌊x⌋ % 2 = 0 then ⌊x⌋ else ⌊x⌋ + 1

/-- The six decimals of `f"{gain_db:.6f}"`. -/
def microDb (gainDb : ℚ) : Int := roundHalfEven (gainDb * 1000000)

/-- `_seconds` of the sound, `f"{milliseconds / 1000:.6f}"`. -/
def audioSeconds (milliseconds : Nat) : String := seconds milliseconds ++ "000"

/-- A volume in writing; a zero without the sign a float may leave on it. -/
def decibels (microDb : Int) : String :=
  (if microDb < 0 then "-" else "") ++
    s!"{microDb.natAbs / 1000000}.{zeroPadded 6 (microDb.natAbs % 1000000)}"

/-- The text of a filter in the graph. -/
def AudioFilter.text : AudioFilter → String
  | .trim startMs endMs => s!"atrim=start={audioSeconds startMs}:end={audioSeconds endMs}"
  | .restart => "asetpts=PTS-STARTPTS"
  | .volume microDb => s!"volume={decibels microDb}dB"
  | .resample => s!"aresample={audioSampleRate}"
  | .format => "aformat=sample_fmts=fltp:channel_layouts=stereo"
  | .delay milliseconds => s!"adelay=delays={milliseconds}:all=1"
  | .pad wholeMs => s!"apad=whole_dur={audioSeconds wholeMs}"
  | .trimEnd endMs => s!"atrim=end={audioSeconds endMs}"
  | .null => "anull"
  | .mix streams => s!"amix=inputs={streams}:duration=longest:dropout_transition=0:normalize=0"
  | .split => "asplit=2"
  | .sidechaincompress =>
    s!"sidechaincompress=threshold={audioDuckThreshold}:ratio={audioDuckRatio}:" ++
      s!"attack={audioDuckAttackMs}:release={audioDuckReleaseMs}"

def AudioPart.text (p : AudioPart) : String :=
  FilterPart.text (fun input => s!"{input}:a") (fun chain => ",".intercalate (chain.map (·.text))) p

/-- A stretch of an input, or the whole of it, somewhere in a stream. -/
structure Sound where
  input : Nat
  window : Option (Nat × Nat)
  microDb : Int
  startMs : Nat
  deriving DecidableEq, Repr

def Sound.endsBy (endMs : Nat) (s : Sound) : Bool :=
  match s.window with
  | none => false
  | some (sourceIn, sourceOut) => s.startMs + (sourceOut - sourceIn) ≤ endMs

/-- Which sounds a filter makes of streams of sounds. A first cut is made of a whole input, a
cut at the end is defined where it takes nothing away, and of the two streams of the
compressor only the first is heard. -/
def AudioFilter.sounds : AudioFilter → List (List Sound) → Option (List (List Sound))
  | .trim sourceIn sourceOut, [[s]] =>
    if s.window = none then
      some [[{ s with window := some (sourceIn, sourceOut), startMs := s.startMs + sourceIn }]]
    else none
  | .restart, [[s]] => some [[{ s with startMs := 0 }]]
  | .volume level, [stream] =>
    some [stream.map fun s => { s with microDb := s.microDb + level }]
  | .delay milliseconds, [stream] =>
    some [stream.map fun s => { s with startMs := s.startMs + milliseconds }]
  | .resample, [stream] | .format, [stream] | .pad _, [stream] | .null, [stream] => some [stream]
  | .trimEnd endMs, [stream] => if stream.all (·.endsBy endMs) then some [stream] else none
  | .mix streams, inputs => if inputs.length = streams then some [inputs.flatten] else none
  | .split, [stream] => some [stream, stream]
  | .sidechaincompress, [stream, _] => some [stream]
  | _, _ => none

def AudioChain.sounds (chain : AudioChain) (streams : List (List Sound)) :
    Option (List (List Sound)) :=
  chain.foldlM (fun streams filter => filter.sounds streams) streams

/-! ## The graph -/

def audioClipLabel (sequence : Nat) : List Char := numbered "audio_clip_".toList (some sequence)
def narrationLabel : List Char := numbered "narration".toList none
def duckBedLabel : List Char := numbered "duck_bed".toList none
def ambientFixedLabel : List Char := numbered "ambient_fixed".toList none
def narrationMixLabel : List Char := numbered "narration_mix".toList none
def narrationSidechainLabel : List Char := numbered "narration_sidechain".toList none
def duckedLabel : List Char := numbered "ducked".toList none
def audioMixLabel : List Char := numbered "audio_mix".toList none
def audioOutLabel : List Char := numbered "audio_out".toList none

def audioClipPart (totalMs inputIndex : Nat) (clip : AudioRenderClip) : AudioPart where
  inputs := [.stream inputIndex]
  filter := [.trim clip.sourceInMs clip.sourceOutMs, .restart, .volume (microDb clip.gainDb),
    .resample, .format, .delay clip.startMs, .pad totalMs, .trimEnd totalMs]
  outputs := [audioClipLabel clip.sequence]

def audioClipParts (totalMs inputIndex : Nat) : List AudioRenderClip → List AudioPart
  | [] => []
  | clip :: clips =>
    audioClipPart totalMs inputIndex clip :: audioClipParts totalMs (inputIndex + 1) clips

/-- The three lists of labels of `_compile_validated_audio_filter_graph`. -/
inductive AudioBus where
  | narration | duckable | fixed
  deriving DecidableEq, Repr

def audioBus (clip : AudioRenderClip) : AudioBus :=
  if clip.trackKind = .narration then .narration
  else if clip.trackKind = .music ∨ clip.originalAudioMode = some .autoDuck then .duckable
  else .fixed

def busLabels (bus : AudioBus) (clips : List AudioRenderClip) : List (List Char) :=
  (clips.filter fun clip => audioBus clip = bus).map fun clip => audioClipLabel clip.sequence

/-- `_mix`: the parts it appends, and the label it returns.
mirrors audio_rendering.py:129-140 -/
def mixLabels (labels : List (List Char)) (output : List Char) :
    List AudioPart × Option (List Char) :=
  match labels with
  | [] => ([], none)
  | [label] => ([⟨[.label label], [.null], [output]⟩], some output)
  | labels => ([⟨labels.map .label, [.mix labels.length], [output]⟩], some output)

def splitPart (narration : List Char) : AudioPart :=
  ⟨[.label narration], [.split], [narrationMixLabel, narrationSidechainLabel]⟩

def duckPart (duckable : List Char) : AudioPart :=
  ⟨[.label duckable, .label narrationSidechainLabel], [.sidechaincompress], [duckedLabel]⟩

/-- Where there is a narration and something to duck under it.
mirrors audio_rendering.py:202-217 -/
def duckNarration : Option (List Char) → Option (List Char) → List AudioPart × List (List Char)
  | some narration, some duckable =>
    ([splitPart narration, duckPart duckable], [narrationMixLabel, duckedLabel])
  | narration, duckable => ([], narration.toList ++ duckable.toList)

/-- mirrors audio_rendering.py:102-106 -/
structure CompiledAudioFilterGraph where
  inputMaterialIds : List Editing.Uuid
  filterGraph : List AudioPart
  outputLabel : Option (List Char)

/-- The clips that are compiled. -/
def audibleClips (plan : AudioRenderPlan) (excludedSequences : List Nat) : List AudioRenderClip :=
  plan.clips.filter fun clip =>
    ¬(clip.sequence ∈ excludedSequences ∨ clip.originalAudioMode = some .muted)

/-- The narration's bus and the one it ducks. -/
def duckedBuses (clips : List AudioRenderClip) : List AudioPart × List (List Char) :=
  duckNarration (mixLabels (busLabels .narration clips) narrationLabel).2
    (mixLabels (busLabels .duckable clips) duckBedLabel).2

def finalLabels (clips : List AudioRenderClip) : List (List Char) :=
  (duckedBuses clips).2 ++ (mixLabels (busLabels .fixed clips) ambientFixedLabel).2.toList

/-- From the clips to the mix.
mirrors audio_rendering.py:199-222 -/
def busParts (totalMs : Nat) (clips : List AudioRenderClip) : List AudioPart :=
  let finalMix := mixLabels (finalLabels clips) audioMixLabel
  (mixLabels (busLabels .narration clips) narrationLabel).1 ++
    ((mixLabels (busLabels .duckable clips) duckBedLabel).1 ++
      ((mixLabels (busLabels .fixed clips) ambientFixedLabel).1 ++
        ((duckedBuses clips).1 ++ (finalMix.1 ++
          [⟨finalMix.2.toList.map .label, [.pad totalMs, .trimEnd totalMs], [audioOutLabel]⟩]))))

/-- `_compile_validated_audio_filter_graph`.
mirrors audio_rendering.py:156-223 -/
def compileValidatedAudioFilterGraph (plan : AudioRenderPlan) (firstInputIndex : Nat)
    (excludedSequences : List Nat) : CompiledAudioFilterGraph :=
  match audibleClips plan excludedSequences with
  | [] => ⟨[], [], none⟩
  | clips =>
    { inputMaterialIds := clips.map (·.materialId)
      filterGraph := audioClipParts plan.durationMs firstInputIndex clips ++
        busParts plan.durationMs clips
      outputLabel := some audioOutLabel }

/-! ## The bindings -/

def sourceById (sources : List AudioRenderSourceBinding) (materialId : Editing.Uuid) :
    Option AudioRenderSourceBinding :=
  sources.find? fun source => source.materialId = materialId

/-- The clips without sound: only the original sound of a material may be missing. Of every
clip there is a source, so the first case is not met.
mirrors audio_rendering.py:293-305 -/
def excludedSequences (sources : List AudioRenderSourceBinding) :
    List AudioRenderClip → Except AudioRenderBindingRejection (List Nat)
  | [] => .ok []
  | clip :: clips =>
    match sourceById sources clip.materialId with
    | none => .error .invalidBindings
    | some source =>
      if source.hasAudio ∨ clip.originalAudioMode = some .muted then
        excludedSequences sources clips
      else if clip.trackKind = .ambient then do
        let rest ← excludedSequences sources clips
        .ok (clip.sequence :: rest)
      else .error (.sourceHasNoAudio clip.materialId)

/-- mirrors audio_rendering.py:112-119; of the command
line, the path after each `-i`. -/
structure BoundAudioRenderInputs where
  inputs : List Path
  inputMaterialIds : List Editing.Uuid
  filterGraph : List AudioPart
  outputLabel : Option (List Char)

/-- `bind_audio_render_inputs`.
mirrors audio_rendering.py:246-319 -/
def bindAudioRenderInputs (plan : AudioRenderPlan) (sources : List AudioRenderSourceBinding)
    (firstInputIndex : Nat) : Except AudioRenderBindingRejection BoundAudioRenderInputs :=
  if ¬(sources.map (·.materialId)).Nodup ∨
      (∃ source ∈ sources, source.materialId ∉ plan.clips.map (·.materialId)) ∨
      ∃ clip ∈ plan.clips, clip.materialId ∉ sources.map (·.materialId) then
    .error .invalidBindings
  else do
    let excluded ← excludedSequences sources plan.clips
    let compiled := compileValidatedAudioFilterGraph plan firstInputIndex excluded
    .ok {
      inputs := compiled.inputMaterialIds.filterMap fun materialId =>
        (sourceById sources materialId).map (·.sourcePath)
      inputMaterialIds := compiled.inputMaterialIds
      filterGraph := compiled.filterGraph
      outputLabel := compiled.outputLabel }

/-! ## What is heard -/

def hasAudio (sources : List AudioRenderSourceBinding) (clip : AudioRenderClip) : Bool :=
  (sourceById sources clip.materialId).any (·.hasAudio)

/-- The clips of a plan that are not muted and whose material has sound. -/
def heardClips (plan : AudioRenderPlan) (sources : List AudioRenderSourceBinding) :
    List AudioRenderClip :=
  plan.clips.filter fun clip => clip.originalAudioMode ≠ some .muted ∧ hasAudio sources clip

/-- A clip as it is heard. -/
def soundOf (clip : AudioRenderClip) (inputIndex : Nat) : Sound :=
  ⟨inputIndex, some (clip.sourceInMs, clip.sourceOutMs), microDb clip.gainDb, clip.startMs⟩

/-- Clip after clip, each from an input of its own. -/
def soundsFrom (inputIndex : Nat) (clips : List AudioRenderClip) : List Sound :=
  (clips.zipIdx inputIndex).map fun x => soundOf x.1 x.2

/-- What is in the output, where the inputs start at an index. -/
def BoundAudioRenderInputs.sounds (bound : BoundAudioRenderInputs) (firstInputIndex : Nat) :
    Option (List Sound) := do
  let source (input : Nat) :=
    if firstInputIndex ≤ input ∧ input < firstInputIndex + bound.inputs.length then
      some [⟨input, none, 0, 0⟩]
    else none
  let output ← bound.outputLabel
  let env ← evalGraph AudioChain.sounds source (fun _ => none) bound.filterGraph
  env output

theorem abs_roundHalfEven_sub_le (x : ℚ) : |(roundHalfEven x : ℚ) - x| ≤ 1 / 2 := by
  have hle := Int.floor_le x
  have hlt := Int.lt_floor_add_one x
  unfold roundHalfEven
  rw [abs_le]
  split
  · constructor <;> linarith
  · split
    · push_cast
      constructor <;> linarith
    · split
      · constructor <;> linarith
      · push_cast
        constructor <;> linarith

/-- A volume is written to the nearest millionth of a decibel. -/
theorem abs_microDb_sub_le (gainDb : ℚ) :
    |(microDb gainDb : ℚ) / 1000000 - gainDb| ≤ 1 / 2000000 := by
  have h := abs_roundHalfEven_sub_le (gainDb * 1000000)
  rw [abs_le] at *
  unfold microDb
  constructor <;> linarith

/-! ## The pieces -/

theorem sounds_audioClipPart {totalMs : Nat} {clip : AudioRenderClip} (inputIndex : Nat)
    (hend : (soundOf clip inputIndex).endsBy totalMs = true) :
    AudioChain.sounds (audioClipPart totalMs inputIndex clip).filter [[⟨inputIndex, none, 0, 0⟩]] =
      some [[soundOf clip inputIndex]] := by
  have hcut : ([soundOf clip inputIndex].all (·.endsBy totalMs)) = true := by simpa using hend
  simp only [AudioChain.sounds, audioClipPart, List.foldlM_cons, List.foldlM_nil,
    AudioFilter.sounds, if_true, List.map_cons, List.map_nil, Option.bind_eq_bind,
    Option.bind_some, Int.zero_add, Nat.zero_add]
  unfold soundOf at hcut
  rw [if_pos hcut]
  rfl

section

variable {source : Nat → Option (List Sound)} {env : Labels (List Char) (List Sound)}

/-- The labels of the clips, and what is in them. -/
def clipSounds (inputIndex : Nat) (clips : List AudioRenderClip) : List (List Char × List Sound) :=
  (clips.zipIdx inputIndex).map fun x => (audioClipLabel x.1.sequence, [soundOf x.1 x.2])

theorem evalGraph_audioClipParts {totalMs inputIndex : Nat} {clips : List AudioRenderClip}
    (hsource : ∀ k < clips.length, source (inputIndex + k) = some [⟨inputIndex + k, none, 0, 0⟩])
    (hend : ∀ s ∈ soundsFrom inputIndex clips, s.endsBy totalMs = true) :
    evalGraph AudioChain.sounds source env (audioClipParts totalMs inputIndex clips) =
      some (env.setAll (clipSounds inputIndex clips)) := by
  induction clips generalizing inputIndex env with
  | nil => rfl
  | cons clip clips ih =>
    have hfirst := hend (soundOf clip inputIndex) List.mem_cons_self
    have hpart : evalPart AudioChain.sounds source env (audioClipPart totalMs inputIndex clip) =
        some (env.set (audioClipLabel clip.sequence) [soundOf clip inputIndex]) :=
      evalPart_single (mapM_eq_some.2 (.cons (hsource 0 (Nat.zero_lt_succ _)) .nil))
        (sounds_audioClipPart inputIndex hfirst)
    rw [audioClipParts, evalGraph_cons hpart]
    refine ih (fun k hk => ?_) fun s hs => hend s (List.mem_cons_of_mem _ hs)
    have := hsource (k + 1) (Nat.succ_lt_succ hk)
    rwa [← Nat.add_assoc, Nat.add_right_comm] at this

theorem conveys_mixLabels {Q : Sound → Prop} (labels : List (List Char)) (output : List Char) :
    Conveys AudioChain.sounds source Q (mixLabels labels output).1 labels
      (mixLabels labels output).2.toList := by
  match labels with
  | [] => exact .refl
  | [label] =>
    have hnull : Conveys AudioChain.sounds source Q [⟨[label].map .label, [.null], [output]⟩]
        [label] [output] := by
      refine .single fun streams hlength _ => ?_
      obtain ⟨stream, rfl⟩ := List.length_eq_one_iff.1 hlength
      simp [AudioChain.sounds, AudioFilter.sounds]
    exact hnull
  | label :: label' :: labels =>
    refine .single fun streams hlength _ => ?_
    simp [AudioChain.sounds, AudioFilter.sounds, hlength]

theorem conveys_duckNarration {Q : Sound → Prop} {narration duckable : Option (List Char)}
    (hduckable : ∀ d ∈ duckable, d ≠ narrationMixLabel ∧ d ≠ narrationSidechainLabel) :
    Conveys AudioChain.sounds source Q (duckNarration narration duckable).1
      (narration.toList ++ duckable.toList) (duckNarration narration duckable).2 := by
  match narration, duckable with
  | none, duckable => exact .refl
  | some n, none => exact .refl
  | some n, some d =>
    obtain ⟨hmix, hside⟩ := hduckable d rfl
    refine ⟨((List.Perm.swap _ _ _).cons d).cons n, fun env sounds hc _ => ?_⟩
    have hn : env n = some (env.content n) := hc.content_eq (by simp)
    have hd : env d = some (env.content d) := hc.content_eq (by simp)
    -- the narration on both halves of the split, of which only one is mixed
    set halves := (env.set narrationMixLabel (env.content n)).set narrationSidechainLabel
      (env.content n)
    have hsplit : evalPart AudioChain.sounds source env (splitPart n) = some halves := by
      simp [evalPart, splitPart, Pad.value, hn, AudioChain.sounds, AudioFilter.sounds, halves]
    have hd' : halves d = some (env.content d) :=
      (Labels.set_of_ne hside).trans ((Labels.set_of_ne hmix).trans hd)
    have hduck : evalPart AudioChain.sounds source halves (duckPart d) =
        some (halves.set duckedLabel (env.content d)) :=
      evalPart_single (mapM_eq_some.2 (.cons hd' (.cons (Labels.set_same _ _ _) .nil))) rfl
    set final := halves.set duckedLabel (env.content d)
    have hducked : final duckedLabel = some (env.content d) := Labels.set_same _ _ _
    have hmixed : final narrationMixLabel = some (env.content n) :=
      (Labels.set_of_ne (by decide +kernel)).trans
        ((Labels.set_of_ne (by decide +kernel)).trans (Labels.set_same _ _ _))
    refine ⟨final, by rw [duckNarration, evalGraph_cons hsplit, evalGraph_cons hduck]; rfl, ?_, ?_⟩
    · intro l hl
      rcases List.mem_pair.1 hl with rfl | rfl
      · exact Option.isSome_of_eq_some hmixed
      · exact Option.isSome_of_eq_some hducked
    · have hleft : [narrationMixLabel, duckedLabel].flatMap final.content =
          [n, d].flatMap env.content := by
        simp only [List.flatMap_cons, List.flatMap_nil, Labels.content, hmixed, hducked,
          Option.getD_some]
      exact .trans (.of_eq hleft) hc.perm

theorem mixLabels_snd (labels : List (List Char)) (output : List Char) :
    (mixLabels labels output).2 = if labels = [] then none else some output := by
  match labels with
  | [] => rfl
  | [label] => rfl
  | label :: label' :: labels => rfl

theorem eq_of_mem_defined_mixLabels {labels : List (List Char)} {output l : List Char}
    (h : l ∈ defined (mixLabels labels output).1) : l = output := by
  match labels with
  | [] => cases h
  | [label] => exact List.mem_singleton.1 h
  | label :: label' :: labels => exact List.mem_singleton.1 h

theorem eq_of_mem_mixLabels {labels : List (List Char)} {output l : List Char}
    (h : l ∈ (mixLabels labels output).2.toList) : l = output := by
  rw [mixLabels_snd] at h
  split at h
  · cases h
  · exact List.mem_singleton.1 h

theorem mem_defined_duckNarration {narration duckable : Option (List Char)} {l : List Char}
    (h : l ∈ defined (duckNarration narration duckable).1) :
    l ∈ [narrationMixLabel, narrationSidechainLabel, duckedLabel] := by
  match narration, duckable with
  | none, duckable => cases h
  | some n, none => cases h
  | some n, some d => exact h

theorem notMem_busLabels {word : List Char} (hword : IsWord word) (bus : AudioBus)
    (clips : List AudioRenderClip) : numbered word none ∉ busLabels bus clips := by
  intro h
  obtain ⟨clip, -, hclip⟩ := List.mem_map.1 h
  cases ((numbered_inj (by decide +kernel) hword).1 hclip).2

/-- Every clip is on one bus. -/
theorem busLabels_perm (clips : List AudioRenderClip) :
    (clips.map fun clip => audioClipLabel clip.sequence).Perm
      (busLabels .narration clips ++ (busLabels .duckable clips ++ busLabels .fixed clips)) := by
  unfold busLabels
  rw [← List.map_append, ← List.map_append]
  refine List.Perm.map _ ?_
  induction clips with
  | nil => rfl
  | cons clip clips ih =>
    cases hbus : audioBus clip with
    | narration => simpa [List.filter_cons, hbus] using ih
    | duckable =>
      simp only [List.filter_cons, hbus, reduceCtorEq, decide_false, decide_true, if_true,
        Bool.false_eq_true, if_false, List.cons_append]
      exact (ih.cons clip).trans List.perm_middle.symm
    | fixed =>
      simp only [List.filter_cons, hbus, reduceCtorEq, decide_false, decide_true, if_true,
        Bool.false_eq_true, if_false]
      rw [← List.append_assoc] at *
      exact (ih.cons clip).trans List.perm_middle.symm

theorem busLabels_ne_nil {clips : List AudioRenderClip} {clip : AudioRenderClip}
    (h : clip ∈ clips) : busLabels (audioBus clip) clips ≠ [] := by
  refine List.ne_nil_of_mem (a := audioClipLabel clip.sequence) ?_
  exact List.mem_map.2 ⟨clip, List.mem_filter.2 ⟨h, by simp⟩, rfl⟩

theorem duckNarration_ne_nil {narration duckable : Option (List Char)}
    (h : narration ≠ none ∨ duckable ≠ none) : (duckNarration narration duckable).2 ≠ [] := by
  match narration, duckable with
  | none, none => simp at h
  | none, some d => exact List.cons_ne_nil _ _
  | some n, none => exact List.cons_ne_nil _ _
  | some n, some d => exact List.cons_ne_nil _ _

/-- What there is to mix at the end, where there is a clip. -/
theorem finalLabels_ne_nil {clips : List AudioRenderClip} (hne : clips ≠ []) :
    finalLabels clips ≠ [] := by
  unfold finalLabels duckedBuses
  obtain ⟨clip, hclip⟩ := List.exists_mem_of_ne_nil clips hne
  have hbus := busLabels_ne_nil hclip
  simp only [mixLabels_snd]
  cases hkind : audioBus clip with
  | narration =>
    rw [hkind] at hbus
    exact List.append_ne_nil_of_left_ne_nil (duckNarration_ne_nil (.inl (by simp [hbus]))) _
  | duckable =>
    rw [hkind] at hbus
    exact List.append_ne_nil_of_left_ne_nil (duckNarration_ne_nil (.inr (by simp [hbus]))) _
  | fixed =>
    rw [hkind] at hbus
    exact List.append_ne_nil_of_right_ne_nil _ (by simp [hbus])

/-- Of sounds the end of the film does not cut. -/
abbrev ConveysSounds (source : Nat → Option (List Sound)) (totalMs : Nat)
    (parts : List AudioPart) (given left : List (List Char)) : Prop :=
  Conveys AudioChain.sounds source (fun s => s.endsBy totalMs = true) parts given left

theorem conveys_outPart (totalMs : Nat) :
    ConveysSounds source totalMs [⟨[audioMixLabel].map .label, [.pad totalMs, .trimEnd totalMs],
      [audioOutLabel]⟩] [audioMixLabel] [audioOutLabel] := by
  refine .single fun streams hlength hQ => ?_
  obtain ⟨stream, rfl⟩ := List.length_eq_one_iff.1 hlength
  rw [List.flatten_singleton] at *
  simpa [AudioChain.sounds, AudioFilter.sounds] using hQ

/-- From the clips to the output: no sound is lost and none doubled. -/
theorem conveys_busParts {totalMs : Nat} {clips : List AudioRenderClip} (hne : clips ≠ []) :
    ConveysSounds source totalMs (busParts totalMs clips)
      (clips.map fun clip => audioClipLabel clip.sequence) [audioOutLabel] := by
  have hfinal := finalLabels_ne_nil hne
  unfold finalLabels duckedBuses at hfinal
  unfold busParts finalLabels duckedBuses
  dsimp only
  set narration := mixLabels (busLabels .narration clips) narrationLabel
  set duckable := mixLabels (busLabels .duckable clips) duckBedLabel
  set fixed := mixLabels (busLabels .fixed clips) ambientFixedLabel
  set ducked := duckNarration narration.2 duckable.2
  have hn : ∀ l ∈ narration.2.toList, l = narrationLabel := fun l => eq_of_mem_mixLabels
  have hd : ∀ l ∈ duckable.2.toList, l = duckBedLabel := fun l => eq_of_mem_mixLabels
  have hf : ∀ l ∈ fixed.2.toList, l = ambientFixedLabel := fun l => eq_of_mem_mixLabels
  have hbus (bus : AudioBus) {word : List Char} (hword : IsWord word) :
      numbered word none ∉ busLabels bus clips := notMem_busLabels hword bus clips
  -- each bus is mixed while the labels of the others wait
  have hmixNarration : ConveysSounds source totalMs narration.1
      (busLabels .narration clips ++ (busLabels .duckable clips ++ busLabels .fixed clips))
      (narration.2.toList ++ (busLabels .duckable clips ++ busLabels .fixed clips)) := by
    refine (conveys_mixLabels _ _).frame fun l hl hdef => ?_
    rw [eq_of_mem_defined_mixLabels hdef, List.mem_append] at hl
    exact hl.elim (hbus _ (by decide +kernel)) (hbus _ (by decide +kernel))
  have hmixDuckable : ConveysSounds source totalMs duckable.1
      (busLabels .duckable clips ++ (narration.2.toList ++ busLabels .fixed clips))
      (duckable.2.toList ++ (narration.2.toList ++ busLabels .fixed clips)) := by
    refine (conveys_mixLabels _ _).frame fun l hl hdef => ?_
    rw [eq_of_mem_defined_mixLabels hdef, List.mem_append] at hl
    exact hl.elim (fun h => absurd (hn _ h) (by decide +kernel)) (hbus _ (by decide +kernel))
  have hmixFixed : ConveysSounds source totalMs fixed.1
      (busLabels .fixed clips ++ (narration.2.toList ++ duckable.2.toList))
      (fixed.2.toList ++ (narration.2.toList ++ duckable.2.toList)) := by
    refine (conveys_mixLabels _ _).frame fun l hl hdef => ?_
    rw [eq_of_mem_defined_mixLabels hdef, List.mem_append] at hl
    exact hl.elim (fun h => absurd (hn _ h) (by decide +kernel)) fun h => absurd (hd _ h) (by decide +kernel)
  have hduck : ConveysSounds source totalMs ducked.1
      ((narration.2.toList ++ duckable.2.toList) ++ fixed.2.toList)
      (ducked.2 ++ fixed.2.toList) := by
    refine (conveys_duckNarration fun d hdmem => ?_).frame fun l hl hdef => ?_
    · rw [hd d (Option.mem_toList.2 hdmem)]
      decide +kernel
    · have := mem_defined_duckNarration hdef
      rw [hf l hl] at this
      exact absurd this (by decide +kernel)
  have hlabel : (mixLabels (ducked.2 ++ fixed.2.toList) audioMixLabel).2 = some audioMixLabel := by
    rw [mixLabels_snd, if_neg hfinal]
  have hmix : ConveysSounds source totalMs
      (mixLabels (ducked.2 ++ fixed.2.toList) audioMixLabel).1 (ducked.2 ++ fixed.2.toList)
      [audioMixLabel] := by
    have hconveys : ConveysSounds source totalMs
        (mixLabels (ducked.2 ++ fixed.2.toList) audioMixLabel).1 (ducked.2 ++ fixed.2.toList)
        (mixLabels (ducked.2 ++ fixed.2.toList) audioMixLabel).2.toList := conveys_mixLabels _ _
    rwa [hlabel] at hconveys
  rw [hlabel]
  have hturn : (duckable.2.toList ++ (narration.2.toList ++ busLabels .fixed clips)).Perm
      (busLabels .fixed clips ++ (narration.2.toList ++ duckable.2.toList)) := by
    refine List.perm_append_comm.trans ?_
    rw [List.append_assoc]
    exact List.perm_append_comm_assoc _ _ _
  exact .of_perm (hmixNarration.append (.of_perm (hmixDuckable.append (.of_perm (hmixFixed.append
    (.of_perm (hduck.append (hmix.append (conveys_outPart totalMs))) List.perm_append_comm))
    hturn)) (List.perm_append_comm_assoc _ _ _))) (busLabels_perm clips)

/-! ## Labels -/

theorem defined_mixLabels_sublist (labels : List (List Char)) (output : List Char) :
    (defined (mixLabels labels output).1).Sublist [output] := by
  match labels with
  | [] => exact List.nil_sublist _
  | [label] => exact .refl _
  | label :: label' :: labels => exact .refl _

theorem defined_duckNarration_sublist (narration duckable : Option (List Char)) :
    (defined (duckNarration narration duckable).1).Sublist
      [narrationMixLabel, narrationSidechainLabel, duckedLabel] := by
  match narration, duckable with
  | none, duckable => exact List.nil_sublist _
  | some n, none => exact List.nil_sublist _
  | some n, some d => exact .refl _

/-- The labels the graph may define besides the clips'. -/
def busWords : List (List Char) :=
  [narrationLabel] ++ ([duckBedLabel] ++ ([ambientFixedLabel] ++
    ([narrationMixLabel, narrationSidechainLabel, duckedLabel] ++ ([audioMixLabel] ++
      [audioOutLabel]))))

theorem defined_busParts_sublist (totalMs : Nat) (clips : List AudioRenderClip) :
    (defined (busParts totalMs clips)).Sublist busWords := by
  unfold busParts busWords
  dsimp only
  simp only [defined_append]
  exact (defined_mixLabels_sublist _ _).append ((defined_mixLabels_sublist _ _).append
    ((defined_mixLabels_sublist _ _).append ((defined_duckNarration_sublist _ _).append
      ((defined_mixLabels_sublist _ _).append (.refl _)))))

theorem defined_audioClipParts (totalMs inputIndex : Nat) (clips : List AudioRenderClip) :
    defined (audioClipParts totalMs inputIndex clips) =
      clips.map fun clip => audioClipLabel clip.sequence := by
  induction clips generalizing inputIndex with
  | nil => rfl
  | cons clip clips ih => exact congrArg (_ :: ·) (ih (inputIndex + 1))

theorem consumed_audioClipParts (totalMs inputIndex : Nat) (clips : List AudioRenderClip) :
    consumed (audioClipParts totalMs inputIndex clips) = [] := by
  induction clips generalizing inputIndex with
  | nil => rfl
  | cons clip clips ih => exact ih (inputIndex + 1)

theorem streams_audioClipParts (totalMs inputIndex : Nat) (clips : List AudioRenderClip) :
    streams (audioClipParts totalMs inputIndex clips) = List.range' inputIndex clips.length := by
  induction clips generalizing inputIndex with
  | nil => rfl
  | cons clip clips ih => exact congrArg (_ :: ·) (ih (inputIndex + 1))

theorem audioClipLabels_nodup {clips : List AudioRenderClip}
    (h : (clips.map (·.sequence)).Nodup) :
    (clips.map fun clip => audioClipLabel clip.sequence).Nodup := by
  have hinj : Function.Injective audioClipLabel := fun m n hmn =>
    Option.some.inj ((numbered_inj (by decide +kernel) (by decide +kernel)).1 hmn).2
  have := h.map hinj
  rwa [List.map_map] at this

theorem wellFormed_audioGraph {totalMs inputIndex : Nat} {clips : List AudioRenderClip}
    (hne : clips ≠ []) (hnodup : (clips.map (·.sequence)).Nodup) :
    WellFormed (audioClipParts totalMs inputIndex clips ++ busParts totalMs clips)
      audioOutLabel := by
  have hclips : Wires (audioClipParts totalMs inputIndex clips) []
      (clips.map fun clip => audioClipLabel clip.sequence) := by
    unfold Wires
    rw [consumed_audioClipParts, defined_audioClipParts]
  have hbuses : ConveysSounds (fun _ => none) totalMs (busParts totalMs clips)
      (clips.map fun clip => audioClipLabel clip.sequence) [audioOutLabel] := conveys_busParts hne
  refine (hclips.append hbuses.wires).wellFormed ?_
  rw [defined_append, defined_audioClipParts]
  refine List.nodup_append.2 ⟨audioClipLabels_nodup hnodup,
    (defined_busParts_sublist totalMs clips).nodup (by decide +kernel), fun l hl l' hl' => ?_⟩
  rintro rfl
  obtain ⟨clip, -, rfl⟩ := List.mem_map.1 hl
  have hword := (defined_busParts_sublist totalMs clips).subset hl'
  simp only [busWords, List.cons_append, List.nil_append, List.mem_cons, List.not_mem_nil,
    or_false] at hword
  have hne (word : List Char) (hword : IsWord word) :
      audioClipLabel clip.sequence ≠ numbered word none := fun h => by
    cases ((numbered_inj (by decide +kernel) hword).1 h).2
  rcases hword with h | h | h | h | h | h | h | h <;> exact hne _ (by decide +kernel) h

end

/-! ## Inputs and ducking -/

theorem inputs_of_mem_mixLabels {labels : List (List Char)} {output : List Char} {p : AudioPart}
    (h : p ∈ (mixLabels labels output).1) :
    p.inputs = labels.map .label ∧ p.filter ≠ [.sidechaincompress] := by
  match labels with
  | [] => cases h
  | [label] =>
    rw [List.mem_singleton.1 h]
    exact ⟨rfl, by simp⟩
  | label :: label' :: labels =>
    rw [List.mem_singleton.1 h]
    exact ⟨rfl, by simp⟩

theorem inputs_of_mem_audioClipParts {totalMs inputIndex : Nat} {clips : List AudioRenderClip}
    {p : AudioPart} (h : p ∈ audioClipParts totalMs inputIndex clips) :
    (∃ input, p.inputs = [.stream input]) ∧ p.filter ≠ [.sidechaincompress] := by
  induction clips generalizing inputIndex with
  | nil => cases h
  | cons clip clips ih =>
    rcases List.mem_cons.1 h with rfl | h
    · exact ⟨⟨inputIndex, rfl⟩, by simp [audioClipPart]⟩
    · exact ih h

theorem streams_eq_nil {parts : List AudioPart}
    (h : ∀ p ∈ parts, ∀ pad ∈ p.inputs, ∃ l, pad = .label l) : streams parts = [] := by
  unfold streams
  refine List.flatMap_eq_nil_iff.2 fun p hp => List.filterMap_eq_nil_iff.2 fun pad hpad => ?_
  obtain ⟨l, rfl⟩ := h p hp pad hpad
  rfl

theorem streams_mixLabels (labels : List (List Char)) (output : List Char) :
    streams (mixLabels labels output).1 = [] := by
  refine streams_eq_nil fun p hp pad hpad => ?_
  rw [(inputs_of_mem_mixLabels hp).1] at hpad
  obtain ⟨l, -, rfl⟩ := List.mem_map.1 hpad
  exact ⟨l, rfl⟩

theorem streams_duckNarration (narration duckable : Option (List Char)) :
    streams (duckNarration narration duckable).1 = [] := by
  match narration, duckable with
  | none, duckable => rfl
  | some n, none => rfl
  | some n, some d => rfl

theorem streams_busParts (totalMs : Nat) (clips : List AudioRenderClip) :
    streams (busParts totalMs clips) = [] := by
  unfold busParts
  dsimp only
  simp only [streams_append, streams_mixLabels, duckedBuses, streams_duckNarration,
    List.nil_append]
  refine streams_eq_nil fun p hp pad hpad => ?_
  rw [List.mem_singleton.1 hp] at hpad
  obtain ⟨l, -, rfl⟩ := List.mem_map.1 hpad
  exact ⟨l, rfl⟩

/-- Where one bus ducks another, the narration's is read by its split alone. -/
structure Ducks (graph : List AudioPart) : Prop where
  split : splitPart narrationLabel ∈ graph
  duck : ∀ p ∈ graph, p.filter = [.sidechaincompress] → p = duckPart duckBedLabel
  alone : ∀ p ∈ graph, .label narrationLabel ∈ p.inputs → p = splitPart narrationLabel

theorem mem_duckNarration {narration duckable : Option (List Char)} {p : AudioPart}
    (h : p ∈ (duckNarration narration duckable).1) :
    ∃ n d, narration = some n ∧ duckable = some d ∧ (p = splitPart n ∨ p = duckPart d) := by
  match narration, duckable with
  | none, duckable => cases h
  | some n, none => cases h
  | some n, some d => exact ⟨n, d, rfl, rfl, List.mem_pair.1 h⟩

/-- The parts of the graph after the clips. -/
theorem mem_busParts {totalMs : Nat} {clips : List AudioRenderClip} {p : AudioPart}
    (h : p ∈ busParts totalMs clips) :
    p ∈ (duckedBuses clips).1 ∨
      ((∃ labels, p.inputs = labels.map .label ∧ (labels = finalLabels clips ∨
        labels = (mixLabels (finalLabels clips) audioMixLabel).2.toList ∨
        ∃ bus, labels = busLabels bus clips)) ∧ p.filter ≠ [.sidechaincompress]) := by
  unfold busParts at h
  simp only [List.mem_append, List.mem_singleton] at h
  rcases h with h | h | h | h | h | rfl
  · exact .inr ⟨⟨_, (inputs_of_mem_mixLabels h).1, .inr (.inr ⟨_, rfl⟩)⟩, (inputs_of_mem_mixLabels h).2⟩
  · exact .inr ⟨⟨_, (inputs_of_mem_mixLabels h).1, .inr (.inr ⟨_, rfl⟩)⟩, (inputs_of_mem_mixLabels h).2⟩
  · exact .inr ⟨⟨_, (inputs_of_mem_mixLabels h).1, .inr (.inr ⟨_, rfl⟩)⟩, (inputs_of_mem_mixLabels h).2⟩
  · exact .inl h
  · exact .inr ⟨⟨_, (inputs_of_mem_mixLabels h).1, .inl rfl⟩, (inputs_of_mem_mixLabels h).2⟩
  · exact .inr ⟨⟨_, rfl, .inr (.inl rfl)⟩, by simp⟩

theorem ducks_of_mem {totalMs inputIndex : Nat} {clips : List AudioRenderClip} {p : AudioPart}
    (h : p ∈ audioClipParts totalMs inputIndex clips ++ busParts totalMs clips)
    (hduck : p.filter = [.sidechaincompress]) :
    Ducks (audioClipParts totalMs inputIndex clips ++ busParts totalMs clips) := by
  have hn : ∀ n, (mixLabels (busLabels .narration clips) narrationLabel).2 = some n →
      n = narrationLabel := fun n hn => eq_of_mem_mixLabels (Option.mem_toList.2 hn)
  have hd : ∀ d, (mixLabels (busLabels .duckable clips) duckBedLabel).2 = some d →
      d = duckBedLabel := fun d hd => eq_of_mem_mixLabels (Option.mem_toList.2 hd)
  have hmem (q : AudioPart) (hq : q ∈ (duckedBuses clips).1) :
      duckedBuses clips = ([splitPart narrationLabel, duckPart duckBedLabel],
        [narrationMixLabel, duckedLabel]) ∧
      (q = splitPart narrationLabel ∨ q = duckPart duckBedLabel) := by
    obtain ⟨n, d, hnarration, hduckable, hq⟩ := mem_duckNarration hq
    obtain rfl := hn n hnarration
    obtain rfl := hd d hduckable
    exact ⟨by rw [duckedBuses, hnarration, hduckable]; rfl, hq⟩
  -- only the ducking itself compresses
  have hp : p ∈ (duckedBuses clips).1 := by
    rcases List.mem_append.1 h with h | h
    · exact absurd hduck (inputs_of_mem_audioClipParts h).2
    · exact (mem_busParts h).resolve_right fun h => h.2 hduck
  have hbuses := (hmem p hp).1
  have hfinal : narrationLabel ∉ finalLabels clips := by
    intro hl
    unfold finalLabels at hl
    rw [hbuses] at hl
    rcases List.mem_append.1 hl with hl | hl
    · exact absurd hl (by decide +kernel)
    · exact absurd (eq_of_mem_mixLabels hl) (by decide +kernel)
  refine ⟨?_, fun q hq hcompress => ?_, fun q hq hreads => ?_⟩
  · refine List.mem_append_right _ ?_
    unfold busParts
    simp [hbuses]
  · have hq : q ∈ (duckedBuses clips).1 := by
      rcases List.mem_append.1 hq with hq | hq
      · exact absurd hcompress (inputs_of_mem_audioClipParts hq).2
      · exact (mem_busParts hq).resolve_right fun h => h.2 hcompress
    rcases (hmem q hq).2 with rfl | rfl
    · cases hcompress
    · rfl
  · rcases List.mem_append.1 hq with hq | hq
    · obtain ⟨input, hinput⟩ := (inputs_of_mem_audioClipParts hq).1
      simp [hinput] at hreads
    · rcases mem_busParts hq with hq | ⟨⟨labels, hinputs, hlabels⟩, -⟩
      · rcases (hmem q hq).2 with rfl | rfl
        · rfl
        · exact absurd hreads (by decide +kernel)
      · rw [hinputs] at hreads
        obtain ⟨l, hl, hpad⟩ := List.mem_map.1 hreads
        cases hpad
        rcases hlabels with rfl | rfl | ⟨bus, rfl⟩
        · exact absurd hl hfinal
        · exact absurd (eq_of_mem_mixLabels hl) (by decide +kernel)
        · exact absurd hl (notMem_busLabels (by decide +kernel) bus clips)

/-! ## The bindings -/

theorem excludedSequences_eq {sources : List AudioRenderSourceBinding}
    {clips : List AudioRenderClip} {excluded : List Nat}
    (h : excludedSequences sources clips = .ok excluded) :
    excluded = (clips.filter fun clip =>
      ¬hasAudio sources clip ∧ clip.originalAudioMode ≠ some .muted).map (·.sequence) := by
  induction clips generalizing excluded with
  | nil =>
    cases h
    rfl
  | cons clip clips ih =>
    rw [excludedSequences] at h
    cases hsource : sourceById sources clip.materialId with
    | none => simp [hsource] at h
    | some source =>
      have hhas : hasAudio sources clip = source.hasAudio := by simp [hasAudio, hsource]
      rw [hsource] at h
      dsimp only at h
      by_cases hkeep : source.hasAudio = true ∨ clip.originalAudioMode = some .muted
      · rw [if_pos hkeep] at h
        rw [List.filter_cons_of_neg, ih h]
        rcases hkeep with hkeep | hkeep <;> simp [hhas, hkeep]
      · rw [if_neg hkeep] at h
        obtain ⟨hsilent, hmode⟩ := not_or.1 hkeep
        split at h
        · obtain ⟨rest, hrest, h⟩ := bind_eq_ok.1 h
          cases h
          rw [List.filter_cons_of_pos (by simp [hhas, hsilent, hmode]), List.map_cons, ih hrest]
        · cases h

theorem sequences_nodup (plan : AudioRenderPlan) : (plan.clips.map (·.sequence)).Nodup := by
  rw [plan.valid.sequences]
  exact List.nodup_range'

theorem audibleClips_eq {plan : AudioRenderPlan} {sources : List AudioRenderSourceBinding}
    {excluded : List Nat} (h : excludedSequences sources plan.clips = .ok excluded) :
    audibleClips plan excluded = heardClips plan sources := by
  refine List.filter_congr fun clip hclip => decide_eq_decide.2 ?_
  have hmem : clip.sequence ∈ excluded ↔
      hasAudio sources clip = false ∧ clip.originalAudioMode ≠ some .muted := by
    rw [excludedSequences_eq h, List.mem_map]
    constructor
    · rintro ⟨other, hother, hsame⟩
      obtain ⟨hother, hsilent⟩ := List.mem_filter.1 hother
      obtain rfl := List.inj_on_of_nodup_map (sequences_nodup plan) hother hclip hsame
      simpa using hsilent
    · intro hsilent
      exact ⟨clip, List.mem_filter.2 ⟨hclip, by simpa using hsilent⟩, rfl⟩
  rw [hmem]
  cases hasAudio sources clip <;> simp

theorem paths_of_hasAudio {sources : List AudioRenderSourceBinding} {clips : List AudioRenderClip}
    (h : ∀ clip ∈ clips, hasAudio sources clip = true) :
    List.Forall₂ (fun clip path => ∃ source ∈ sources, source.materialId = clip.materialId ∧
        source.hasAudio = true ∧ path = source.sourcePath) clips
      ((clips.map (·.materialId)).filterMap fun materialId =>
        (sourceById sources materialId).map (·.sourcePath)) := by
  induction clips with
  | nil => exact .nil
  | cons clip clips ih =>
    have hhas := h clip List.mem_cons_self
    unfold hasAudio at hhas
    cases hsource : sourceById sources clip.materialId with
    | none => simp [hsource] at hhas
    | some source =>
      have hhas : source.hasAudio = true := by simpa [hsource] using hhas
      have hmem := List.mem_of_find?_eq_some hsource
      have hid : source.materialId = clip.materialId := by simpa using List.find?_some hsource
      rw [List.map_cons, List.filterMap_cons_some (by rw [hsource]; rfl)]
      exact .cons ⟨source, hmem, hid, hhas, rfl⟩ (ih fun c hc => h c (List.mem_cons_of_mem _ hc))

theorem validAudioLayout_end_le {durationMs order : Nat} {previousEnd : AudioTrackKind → Nat}
    {clips : List AudioRenderClip} (h : validAudioLayout durationMs order previousEnd clips = true) :
    ∀ clip ∈ clips, clip.endMs ≤ durationMs := by
  induction clips generalizing order previousEnd with
  | nil => exact fun clip hclip => absurd hclip List.not_mem_nil
  | cons clip clips ih =>
    obtain ⟨-, -, hend, hrest⟩ := of_decide_eq_true h
    intro c hc
    rcases List.mem_cons.1 hc with rfl | hc
    · exact hend
    · exact ih hrest c hc

theorem endsBy_of_mem_soundsFrom {plan : AudioRenderPlan} {clips : List AudioRenderClip}
    (hclips : ∀ clip ∈ clips, clip ∈ plan.clips) {inputIndex : Nat} :
    ∀ s ∈ soundsFrom inputIndex clips, s.endsBy plan.durationMs = true := by
  intro s hs
  obtain ⟨x, hx, rfl⟩ := List.mem_map.1 hs
  have hclip := hclips x.1 (List.fst_mem_of_mem_zipIdx hx)
  have hend := validAudioLayout_end_le plan.valid.layout x.1 hclip
  have hsource := x.1.valid.source
  unfold AudioRenderClipFields.endMs at hend
  refine decide_eq_true ?_
  show x.1.startMs + (x.1.sourceOutMs - x.1.sourceInMs) ≤ plan.durationMs
  omega

/-! ## The mix -/

/-- What the sound of a plan comes to, its inputs counted from an index. -/
structure BoundAudioRenderInputs.Mixes (plan : AudioRenderPlan)
    (sources : List AudioRenderSourceBinding) (firstInputIndex : Nat)
    (bound : BoundAudioRenderInputs) : Prop where
  /-- Behind the k-th `-i` stands the file of the k-th clip that is heard. -/
  inputs : List.Forall₂ (fun clip path => ∃ source ∈ sources,
    source.materialId = clip.materialId ∧ source.hasAudio = true ∧ path = source.sourcePath)
    (heardClips plan sources) bound.inputs
  materials : bound.inputMaterialIds = (heardClips plan sources).map (·.materialId)
  streams : streams bound.filterGraph = List.range' firstInputIndex bound.inputs.length
  /-- Silence has no graph. -/
  silent : heardClips plan sources = [] → bound.outputLabel = none ∧ bound.filterGraph = []
  wellFormed : heardClips plan sources ≠ [] → ∃ output, bound.outputLabel = some output ∧
    WellFormed bound.filterGraph output
  heard : heardClips plan sources ≠ [] → ∃ sounds, bound.sounds firstInputIndex = some sounds ∧
    sounds.Perm (soundsFrom firstInputIndex (heardClips plan sources))
  levels : ∀ clip ∈ plan.clips, |(microDb clip.gainDb : ℚ) / 1000000 - clip.gainDb| ≤ 1 / 2000000
  ducks : ∀ p ∈ bound.filterGraph, p.filter = [.sidechaincompress] → Ducks bound.filterGraph

theorem compile_eq {plan : AudioRenderPlan} {firstInputIndex : Nat} {excluded : List Nat} :
    compileValidatedAudioFilterGraph plan firstInputIndex excluded =
      if audibleClips plan excluded = [] then ⟨[], [], none⟩
      else ⟨(audibleClips plan excluded).map (·.materialId),
        audioClipParts plan.durationMs firstInputIndex (audibleClips plan excluded) ++
          busParts plan.durationMs (audibleClips plan excluded), some audioOutLabel⟩ := by
  unfold compileValidatedAudioFilterGraph
  cases audibleClips plan excluded with
  | nil => rfl
  | cons clip clips => rfl

/-- The output of the whole graph. -/
theorem sounds_audioGraph {plan : AudioRenderPlan} {clips : List AudioRenderClip}
    {inputIndex : Nat} {source : Nat → Option (List Sound)} (hne : clips ≠ [])
    (hclips : clips.Sublist plan.clips)
    (hsource : ∀ k < clips.length,
      source (inputIndex + k) = some [⟨inputIndex + k, none, 0, 0⟩]) :
    ∃ env sounds, evalGraph AudioChain.sounds source (fun _ => none)
        (audioClipParts plan.durationMs inputIndex clips ++ busParts plan.durationMs clips) =
        some env ∧ env audioOutLabel = some sounds ∧
      sounds.Perm (soundsFrom inputIndex clips) := by
  have hend : ∀ s ∈ soundsFrom inputIndex clips, s.endsBy plan.durationMs = true :=
    endsBy_of_mem_soundsFrom fun clip hclip => hclips.subset hclip
  have hlabels : (clipSounds inputIndex clips).map (·.1) =
      clips.map fun clip => audioClipLabel clip.sequence := by
    have hmap : (clipSounds inputIndex clips).map (·.1) =
        ((clips.zipIdx inputIndex).map Prod.fst).map fun clip => audioClipLabel clip.sequence := by
      unfold clipSounds
      rw [List.map_map, List.map_map]
      rfl
    rw [hmap, List.zipIdx_map_fst]
  have hsounds : (clipSounds inputIndex clips).flatMap (·.2) = soundsFrom inputIndex clips := by
    unfold clipSounds soundsFrom
    rw [List.flatMap_map, List.map_eq_flatMap]
  have hnodup : (clips.map fun clip => audioClipLabel clip.sequence).Nodup :=
    audioClipLabels_nodup ((sequences_nodup plan).sublist (hclips.map _))
  -- the clips come in, and the buses convey them
  set cut : Labels (List Char) (List Sound) :=
    Labels.setAll (fun _ => none) (clipSounds inputIndex clips)
  have hcuts : evalGraph AudioChain.sounds source (fun _ => none)
      (audioClipParts plan.durationMs inputIndex clips) = some cut :=
    evalGraph_audioClipParts hsource hend
  have hcarries : Carries cut (clips.map fun clip => audioClipLabel clip.sequence)
      (soundsFrom inputIndex clips) := by
    rw [← hlabels] at hnodup
    rw [← hlabels, ← hsounds]
    exact .setAll hnodup
  obtain ⟨env, heval, hout⟩ := (conveys_busParts hne).carries cut _ hcarries hend
  refine ⟨env, env.content audioOutLabel, (evalGraph_append hcuts _).trans heval,
    hout.content_eq List.mem_cons_self, ?_⟩
  simpa using hout.perm

/-- **The mix of a plan.** For every plan, and all bindings that are accepted, the graph is
well formed, its streams are the `-i` arguments in their order, and in its output is every
clip once that is not muted and has sound, from its own file, at its place and its level. -/
theorem bound_mixes (plan : AudioRenderPlan) (sources : List AudioRenderSourceBinding)
    (firstInputIndex : Nat) (bound : BoundAudioRenderInputs)
    (h : bindAudioRenderInputs plan sources firstInputIndex = .ok bound) :
    bound.Mixes plan sources firstInputIndex := by
  unfold bindAudioRenderInputs at h
  split at h
  · cases h
  obtain ⟨excluded, hexcluded, h⟩ := bind_eq_ok.1 h
  cases h
  rw [compile_eq, audibleClips_eq hexcluded]
  have hsub : (heardClips plan sources).Sublist plan.clips := List.filter_sublist
  have hhas : ∀ clip ∈ heardClips plan sources, hasAudio sources clip = true := by
    intro clip hclip
    have := (List.mem_filter.1 hclip).2
    simp only [decide_eq_true_eq] at this
    exact this.2
  have hpaths := paths_of_hasAudio hhas
  have hlevels : ∀ clip ∈ plan.clips,
      |(microDb clip.gainDb : ℚ) / 1000000 - clip.gainDb| ≤ 1 / 2000000 :=
    fun clip _ => abs_microDb_sub_le clip.gainDb
  by_cases hne : heardClips plan sources = []
  · rw [if_pos hne]
    rw [hne] at hpaths
    refine ⟨?_, ?_, rfl, fun _ => ⟨rfl, rfl⟩, fun h => absurd hne h, fun h => absurd hne h, hlevels,
      fun p hp => absurd hp List.not_mem_nil⟩
    · rw [hne]
      exact .nil
    · rw [hne]
      rfl
  · rw [if_neg hne]
    have hlength := hpaths.length_eq
    refine ⟨hpaths, rfl, ?_, fun h => absurd h hne, fun _ => ⟨audioOutLabel, rfl, ?_⟩, fun _ => ?_,
      hlevels, fun p hp => ducks_of_mem hp⟩
    · dsimp only
      rw [streams_append, streams_audioClipParts, streams_busParts, List.append_nil, hlength]
    · exact wellFormed_audioGraph hne ((sequences_nodup plan).sublist (hsub.map _))
    · unfold BoundAudioRenderInputs.sounds
      dsimp only [Option.bind_eq_bind, Option.bind_some]
      rw [← hlength]
      set source := fun input =>
        if firstInputIndex ≤ input ∧ input < firstInputIndex + (heardClips plan sources).length then
          some [(⟨input, none, 0, 0⟩ : Sound)]
        else none
      have hsource : ∀ k < (heardClips plan sources).length,
          source (firstInputIndex + k) = some [⟨firstInputIndex + k, none, 0, 0⟩] :=
        fun k hk => if_pos ⟨Nat.le_add_right _ _, Nat.add_lt_add_left hk firstInputIndex⟩
      obtain ⟨env, sounds, heval, hout, hperm⟩ := sounds_audioGraph hne hsub hsource
      exact ⟨sounds, by rw [heval]; exact hout, hperm⟩

namespace Ducking

def uuid (n : Nat) : Editing.Uuid := 4 * 2 ^ 76 + 2 * 2 ^ 62 + n

def clip (sequence : Nat) (kind : AudioTrackKind) (material startMs gain : Nat)
    (mode : Option OriginalAudioMode) : AudioRenderClipFields where
  sequence := sequence
  trackKind := kind
  materialId := uuid material
  startMs := startMs
  durationMs := 2000
  sourceInMs := 500
  sourceOutMs := 2500
  gainDb := gain
  originalAudioMode := mode

/-- A voice over the sound of two videos, one of them silent and one muted, and music. -/
def plan : AudioRenderPlan where
  projectId := uuid 1
  timelineId := uuid 2
  timelineRevision := 1
  durationMs := 8000
  clips := [
    ⟨clip 1 .narration 11 1000 0 none, by decide⟩,
    ⟨clip 2 .ambient 12 0 3 (some .autoDuck), by decide⟩,
    ⟨clip 3 .ambient 13 2000 0 (some .fixedVolume), by decide⟩,
    ⟨clip 4 .ambient 12 4000 0 (some .muted), by decide⟩,
    ⟨clip 5 .music 14 6000 6 none, by decide⟩]
  valid := by decide +kernel

def sources : List AudioRenderSourceBinding :=
  [⟨uuid 11, "/voice.wav", true⟩, ⟨uuid 12, "/sea.mp4", true⟩, ⟨uuid 13, "/silent.mp4", false⟩,
    ⟨uuid 14, "/song.mp3", true⟩]

theorem ducked_mixes :
    ∃ bound, bindAudioRenderInputs plan sources 2 = .ok bound ∧
      bound.inputs = ["/voice.wav", "/sea.mp4", "/song.mp3"] ∧ bound.Mixes plan sources 2 :=
  ⟨_, rfl, rfl, bound_mixes plan sources 2 _ rfl⟩

end Ducking
end AutomationTool.Executor
