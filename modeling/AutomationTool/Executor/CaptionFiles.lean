import AutomationTool.Core.Directory
import AutomationTool.Executor.VisualRendering
import AutomationTool.Protocol.SafeText

/-!
# The captions' files

`render_caption_overlay_set` draws every caption into a file of its own in the directory of the
task: each is written under a name nobody else has and moved to where it belongs. When one cannot be
drawn or written, the files of all captions are removed.

What a page looks like is a function of the caption and the style (`draw`); where the disk or the
user interferes, and which names resist their removal, is the `System`'s.

* `outcome`: what becomes of one caption, said of the state before the call.
* `renderAll_spec`: what the directory is when all are written, or when one is not.
* `overlays_of_written`: the windows of written captions are in order and inside the film.
-/
namespace AutomationTool.Executor.CaptionFiles

open LocalEditing FileTree

variable [Editing.UnicodeData]

abbrev Name := List Char

def maxPathCharacters : Nat := 4096

def decimalDigit (n : Nat) : Char := Nat.digitChar (n % 10)

/-- `f"caption-{sequence:04d}.png"`; there are at most 512 captions.
mirrors caption_overlay.py:223 -/
def captionName (sequence : Nat) : Name :=
  "caption-".toList ++ [decimalDigit (sequence / 1000), decimalDigit (sequence / 100),
    decimalDigit (sequence / 10), decimalDigit sequence] ++ ".png".toList

/-- A name of `tempfile.mkstemp`. -/
def workingName (random : Name) : Name := ".caption-".toList ++ random ++ ".png".toList

/-- Where drawing or writing a caption is broken off. -/
inductive Stage where
  | drawing | allocating | writing
  /-- The file is where it belongs, but the call does not return. -/
  | moved
  deriving DecidableEq

structure Fault where
  stage : Stage
  /-- It is no `Exception`, such as `KeyboardInterrupt`. -/
  interrupt : Bool := false
  deriving DecidableEq

/-- What is outside of the call, for the caption of each sequence. -/
structure System (β : Type) where
  draw : CaptionRenderStyle → Nat → Nat → List Char → Option β
  random : Nat → Name
  unfinished : Nat → β
  fault : Nat → Option Fault
  /-- What is under the name cannot be asked. -/
  hidden : Name → Bool
  /-- What is under the name cannot be removed. -/
  stuck : Name → Bool

/-- mirrors caption_overlay.py:30-34 -/
inductive CaptionOverlayRejection where
  | invalidPlan | invalidWorkspace | captionBelowOneFrame | renderFailed
  deriving DecidableEq

/-- `raised`: any other exception. -/
inductive Failure where
  | rejected (code : CaptionOverlayRejection)
  | raised
  deriving DecidableEq

/-- The directory of the task. -/
structure Place where
  path : List Char
  isAbsolute : Bool
  isSymlink : Bool
  isDir : Bool

/-- `directory / name`. -/
def Place.file (place : Place) (name : Name) : List Char :=
  if place.path.getLast? = some '/' then place.path ++ name else place.path ++ '/' :: name

/-- `_valid_path` of a local path; the suffix of a caption's is right by its name.
mirrors caption_overlay.py:58-66 -/
def Place.valid (place : Place) (path : List Char) : Bool :=
  place.isAbsolute && path.length ≤ maxPathCharacters && !Protocol.containsControlOrBidi path

instance (s : VisualCaptionOverlaySetFields) : Decidable s.Valid :=
  decidable_of_iff
    (isCanonicalUuid4 s.projectId = true ∧ isCanonicalUuid4 s.timelineId = true ∧
      1 ≤ s.timelineRevision ∧ validOutputSide s.outputWidth = true ∧
      validOutputSide s.outputHeight = true ∧ minOutputFps ≤ s.outputFps ∧
      s.outputFps ≤ maxOutputFps ∧ minRenderDurationMs ≤ s.durationMs ∧
      s.durationMs ≤ maxRenderDurationMs ∧ s.targetFrames = frameAt s.durationMs s.outputFps ∧
      s.captions.length ≤ maxCaptionCues ∧ Numbered (s.captions.map (·.sequence)) ∧
      validOverlayLayout s.targetFrames 0 s.captions = true)
    ⟨fun ⟨h1, h2, h3, h4, h5, h6, h7, h8, h9, h10, h11, h12, h13⟩ =>
      ⟨h1, h2, h3, h4, h5, h6, h7, h8, h9, h10, h11, h12, h13⟩,
    fun h => ⟨h.projectId, h.timelineId, h.revision_pos, h.width, h.height, h.fps_ge, h.fps_le,
      h.duration_ge, h.duration_le, h.target, h.length_le, h.sequences, h.layout⟩⟩

section

variable {β : Type} (system : System β)

def Fault.failure (f : Fault) : Failure :=
  if f.interrupt then .raised else .rejected .renderFailed

/-- `_write_atomically`, with what it is raised with, if it is.
mirrors render.py:558-594 -/
def writeAtomically (sequence : Nat) (image : β) (d : FileTree Name β) :
    Option Failure × FileTree Name β :=
  let working := workingName (system.random sequence)
  let destination := captionName sequence
  if (d working).isSome then (some (.rejected .renderFailed), d)
  else
    let unfinished := put working (system.unfinished sequence) d
    let moved := put destination image (drop working d)
    match system.fault sequence with
    | some ⟨.allocating, interrupt⟩ => (some (Fault.failure ⟨.allocating, interrupt⟩), d)
    | some ⟨.writing, interrupt⟩ =>
      (some (Fault.failure ⟨.writing, interrupt⟩), remove system.stuck working unfinished)
    | some ⟨.moved, interrupt⟩ => (some (Fault.failure ⟨.moved, interrupt⟩), moved)
    | _ =>
      if isFolder (d destination) then
        (some (.rejected .renderFailed), remove system.stuck working unfinished)
      else (none, moved)

/-- `render_caption` of one cue. -/
def renderCaption (plan : CaptionRenderPlan) (cue : CaptionRenderCue) (d : FileTree Name β) :
    Option Failure × FileTree Name β :=
  match system.draw plan.style plan.outputWidth plan.outputHeight cue.text with
  | none => (some (.rejected .renderFailed), d)
  | some image =>
    match system.fault cue.sequence with
    | some ⟨.drawing, interrupt⟩ => (some (Fault.failure ⟨.drawing, interrupt⟩), d)
    | _ => writeAtomically system cue.sequence image d

/-- The loop over the cues. -/
def renderAll (plan : CaptionRenderPlan) :
    List CaptionRenderCue → FileTree Name β → Option Failure × FileTree Name β
  | [], d => (none, d)
  | cue :: cues, d =>
    match renderCaption system plan cue d with
    | (some failure, d') => (some failure, d')
    | (none, d') =>
      if isFile (d' (captionName cue.sequence)) then renderAll plan cues d'
      else (some (.rejected .renderFailed), d')

/-- The first loop: what is rejected before anything is written. -/
def checkCues (plan : CaptionRenderPlan) (d : FileTree Name β) :
    List CaptionRenderCue → Except Failure Unit
  | [] => .ok ()
  | cue :: cues =>
    if frameAt cue.endMs plan.outputFps ≤ frameAt cue.startMs plan.outputFps then
      .error (.rejected .captionBelowOneFrame)
    else if system.hidden (captionName cue.sequence) then .error .raised
    else if there (d (captionName cue.sequence)) then .error (.rejected .invalidWorkspace)
    else checkCues plan d cues

def destinations (plan : CaptionRenderPlan) : List Name :=
  plan.cues.map fun cue => captionName cue.sequence

/-- The binding of one cue's file.
mirrors caption_overlay.py:79-87 -/
def makeBinding (plan : CaptionRenderPlan) (place : Place) (cue : CaptionRenderCue) :
    Option VisualCaptionOverlayBinding :=
  let startFrame := frameAt cue.startMs plan.outputFps
  let endFrame := frameAt cue.endMs plan.outputFps
  let sourcePath := place.file (captionName cue.sequence)
  if h : (1 ≤ cue.sequence ∧ cue.sequence ≤ maxCaptionCues) ∧ startFrame < endFrame then
    if place.valid sourcePath then
      some ⟨cue.sequence, startFrame, endFrame, String.ofList sourcePath, h.1.1, h.1.2, h.2⟩
    else none
  else none

/-- `VisualCaptionOverlaySet` of a plan. -/
def makeOverlays (plan : CaptionRenderPlan) (place : Place) : Option VisualCaptionOverlaySet := do
  let captions ← plan.cues.mapM (makeBinding plan place)
  let fields : VisualCaptionOverlaySetFields :=
    { projectId := plan.projectId
      timelineId := plan.timelineId
      timelineRevision := plan.timelineRevision
      outputWidth := plan.outputWidth
      outputHeight := plan.outputHeight
      outputFps := plan.outputFps
      durationMs := plan.durationMs
      targetFrames := frameAt plan.durationMs plan.outputFps
      captions }
  if h : fields.Valid then some ⟨fields, h⟩ else none

/-- A plan is valid, so validating it again changes nothing. `_remove(written + destinations)` is
asked for every destination anyway.
mirrors caption_overlay.py:199-272 -/
def renderCaptionOverlaySet (plan : CaptionRenderPlan) (place : Place) (d : FileTree Name β) :
    Except Failure VisualCaptionOverlaySet × FileTree Name β :=
  if !place.valid place.path || place.isSymlink || !place.isDir then
    (.error (.rejected .invalidWorkspace), d)
  else
    match checkCues system plan d plan.cues with
    | .error failure => (.error failure, d)
    | .ok () =>
      match renderAll system plan plan.cues d with
      | (some failure, d') => (.error failure, removeAll system.stuck (destinations plan) d')
      | (none, d') =>
        match makeOverlays plan place with
        | none => (.error (.rejected .invalidPlan), d')
        | some overlays => (.ok overlays, d')

/-! ## One caption -/

/-- What becomes of a caption: `unwritten` leaves its working file when that resists removal. -/
inductive Outcome (β : Type) where
  | refused | unwritten
  | moved (image : β)
  | written (image : β)

def outcome (plan : CaptionRenderPlan) (cue : CaptionRenderCue) (d : FileTree Name β) : Outcome β :=
  match system.draw plan.style plan.outputWidth plan.outputHeight cue.text with
  | none => .refused
  | some image =>
    if (d (workingName (system.random cue.sequence))).isSome then .refused
    else
      match system.fault cue.sequence with
      | none => .written image
      | some ⟨.moved, _⟩ => .moved image
      | some ⟨.writing, _⟩ => .unwritten
      | some _ => .refused

/-- The directory it leaves. -/
def leaves (cue : CaptionRenderCue) (d : FileTree Name β) : Outcome β → FileTree Name β
  | .refused => d
  | .unwritten =>
    let working := workingName (system.random cue.sequence)
    if system.stuck working then put working (system.unfinished cue.sequence) d else d
  | .moved image => put (captionName cue.sequence) image d
  | .written image => put (captionName cue.sequence) image d

def Outcome.IsWritten : Outcome β → Prop
  | .written _ => True
  | _ => False

instance (o : Outcome β) : Decidable o.IsWritten := by
  cases o <;> unfold Outcome.IsWritten <;> infer_instance

def Outcome.Moves : Outcome β → Prop
  | .moved _ | .written _ => True
  | _ => False

def Outcome.Unfinished : Outcome β → Prop
  | .unwritten => True
  | _ => False

variable {system}

omit [Editing.UnicodeData] in
theorem writeAtomically_leaves {sequence : Nat} {image : β} {d : FileTree Name β}
    (hworking : d (workingName (system.random sequence)) = none)
    (hfolder : isFolder (d (captionName sequence)) = false) :
    writeAtomically system sequence image d =
      match system.fault sequence with
      | some ⟨.allocating, interrupt⟩ => (some (Fault.failure ⟨.allocating, interrupt⟩), d)
      | some ⟨.writing, interrupt⟩ =>
        (some (Fault.failure ⟨.writing, interrupt⟩),
          if system.stuck (workingName (system.random sequence)) then
            put (workingName (system.random sequence)) (system.unfinished sequence) d
          else d)
      | some ⟨.moved, interrupt⟩ =>
        (some (Fault.failure ⟨.moved, interrupt⟩), put (captionName sequence) image d)
      | _ => (none, put (captionName sequence) image d) := by
  simp only [writeAtomically, hworking, Option.isSome_none, Bool.false_eq_true, if_false, hfolder,
    drop_of_none hworking, remove_put hworking]

theorem renderCaption_leaves (plan : CaptionRenderPlan) {cue : CaptionRenderCue}
    {d : FileTree Name β} (hfolder : isFolder (d (captionName cue.sequence)) = false) :
    ∃ failure, renderCaption system plan cue d =
        (failure, leaves system cue d (outcome system plan cue d)) ∧
      (failure = none ↔ (outcome system plan cue d).IsWritten) := by
  simp only [renderCaption, outcome]
  cases system.draw plan.style plan.outputWidth plan.outputHeight cue.text with
  | none => exact ⟨_, rfl, by simp [Outcome.IsWritten]⟩
  | some image =>
    by_cases hworking : (d (workingName (system.random cue.sequence))).isSome
    · simp only [hworking, if_true, leaves]
      split
      · exact ⟨_, rfl, by simp [Outcome.IsWritten]⟩
      · simp only [writeAtomically, hworking, if_true]
        exact ⟨_, rfl, by simp [Outcome.IsWritten]⟩
    · rw [Bool.not_eq_true, Option.isSome_eq_false_iff, Option.isNone_iff_eq_none] at hworking
      simp only [writeAtomically_leaves hworking hfolder, hworking, Option.isSome_none,
        Bool.false_eq_true, if_false]
      cases hfault : system.fault cue.sequence with
      | none => exact ⟨_, rfl, by simp [Outcome.IsWritten]⟩
      | some fault =>
        obtain ⟨stage, interrupt⟩ := fault
        cases stage <;> exact ⟨_, rfl, by simp [Outcome.IsWritten]⟩

/-! ## Names -/

omit [Editing.UnicodeData] in
theorem digitChar_inj : ∀ a < 10, ∀ b < 10, Nat.digitChar a = Nat.digitChar b → a = b := by
  decide

omit [Editing.UnicodeData] in
theorem captionName_inj {a b : Nat} (ha : a < 10000) (hb : b < 10000)
    (h : captionName a = captionName b) : a = b := by
  have hdigits := List.append_cancel_left (List.append_cancel_right h)
  simp only [List.cons.injEq, and_true, decimalDigit] at hdigits
  obtain ⟨h1, h2, h3, h4⟩ := hdigits
  have h1 := digitChar_inj _ (Nat.mod_lt _ (by omega)) _ (Nat.mod_lt _ (by omega)) h1
  have h2 := digitChar_inj _ (Nat.mod_lt _ (by omega)) _ (Nat.mod_lt _ (by omega)) h2
  have h3 := digitChar_inj _ (Nat.mod_lt _ (by omega)) _ (Nat.mod_lt _ (by omega)) h3
  have h4 := digitChar_inj _ (Nat.mod_lt _ (by omega)) _ (Nat.mod_lt _ (by omega)) h4
  omega

omit [Editing.UnicodeData] in
theorem workingName_ne (random : Name) (sequence : Nat) :
    workingName random ≠ captionName sequence := by
  intro h
  have hworking : (workingName random).head? = some '.' := rfl
  have hcaption : (captionName sequence).head? = some 'c' := rfl
  rw [h, hcaption] at hworking
  exact absurd hworking (by decide)

theorem destinations_nodup (plan : CaptionRenderPlan) : (destinations plan).Nodup := by
  have hnumbered : plan.cues.map (·.sequence) = List.range' 1 _ := plan.valid.sequences
  have hmap : destinations plan = (plan.cues.map (·.sequence)).map captionName := by
    rw [List.map_map]
    rfl
  rw [hmap, List.nodup_map_iff_inj_on (by rw [hnumbered]; exact List.nodup_range')]
  have hbound : ∀ a ∈ plan.cues.map (·.sequence), a < 10000 := by
    intro a ha
    obtain ⟨cue, -, rfl⟩ := List.mem_map.1 ha
    have hle := cue.valid.sequence_le
    simp only [maxCaptionCues] at hle
    omega
  exact fun a ha b hb h => captionName_inj (hbound a ha) (hbound b hb) h

/-! ## All captions -/

variable (system) in
/-- The directory after captions that were written. -/
def written (plan : CaptionRenderPlan) :
    List CaptionRenderCue → FileTree Name β → FileTree Name β
  | [], d => d
  | cue :: cues, d => written plan cues (leaves system cue d (outcome system plan cue d))

variable (system) in
/-- Every caption is drawn and written. -/
def AllWritten (plan : CaptionRenderPlan) (d : FileTree Name β) (cues : List CaptionRenderCue) :
    Prop := ∀ cue ∈ cues, (outcome system plan cue d).IsWritten

theorem outcome_congr {plan : CaptionRenderPlan} {cue : CaptionRenderCue} {d d' : FileTree Name β}
    (h : d' (workingName (system.random cue.sequence)) =
      d (workingName (system.random cue.sequence))) :
    outcome system plan cue d' = outcome system plan cue d := by
  simp only [outcome, h]

theorem unwritten_free {plan : CaptionRenderPlan} {cue : CaptionRenderCue} {d : FileTree Name β}
    (h : outcome system plan cue d = .unwritten) :
    d (workingName (system.random cue.sequence)) = none := by
  simp only [outcome] at h
  split at h
  · cases h
  · split at h
    · cases h
    · rename_i hfree
      rwa [Bool.not_eq_true, Option.isSome_eq_false_iff, Option.isNone_iff_eq_none] at hfree

theorem leaves_of_isWritten {cue : CaptionRenderCue} {d : FileTree Name β} {o : Outcome β}
    (h : o.IsWritten) : ∃ image, leaves system cue d o = put (captionName cue.sequence) image d := by
  cases o with
  | written image => exact ⟨image, rfl⟩
  | _ => cases h

/-- A written caption changes what is under its own name only. -/
theorem leaves_working {cue : CaptionRenderCue} {d : FileTree Name β} {o : Outcome β}
    (h : o.IsWritten) (random : Name) :
    leaves system cue d o (workingName random) = d (workingName random) := by
  obtain ⟨image, heq⟩ := @leaves_of_isWritten _ _ system cue d _ h
  rw [heq, put_ne (workingName_ne random _)]

theorem allWritten_leaves {plan : CaptionRenderPlan} {cue : CaptionRenderCue}
    {cues : List CaptionRenderCue} {d : FileTree Name β} {o : Outcome β} (h : o.IsWritten) :
    AllWritten system plan (leaves system cue d o) cues ↔ AllWritten system plan d cues := by
  refine forall₂_congr fun later _ => ?_
  rw [outcome_congr (leaves_working h _)]

theorem leaves_file {cue : CaptionRenderCue} {d : FileTree Name β} {o : Outcome β}
    (h : o.IsWritten) {name : Name}
    (hname : name = captionName cue.sequence ∨ isFile (d name) = true) :
    isFile (leaves system cue d o name) = true := by
  obtain ⟨image, heq⟩ := @leaves_of_isWritten _ _ system cue d _ h
  rw [heq]
  by_cases hsame : name = captionName cue.sequence
  · rw [hsame, put_self]
    rfl
  · rw [put_ne hsame]
    exact hname.resolve_left hsame

/-- Under the name of a written caption there is a file. -/
theorem written_file {plan : CaptionRenderPlan} {cues : List CaptionRenderCue}
    {d : FileTree Name β} (h : AllWritten system plan d cues) {name : Name}
    (hname : (∃ cue ∈ cues, name = captionName cue.sequence) ∨ isFile (d name) = true) :
    isFile (written system plan cues d name) = true := by
  induction cues generalizing d with
  | nil =>
    rcases hname with ⟨_, hnone, -⟩ | hfile
    · cases hnone
    · exact hfile
  | cons cue cues ih =>
    obtain ⟨hcue, hcues⟩ := List.forall_mem_cons.1 h
    refine ih ((allWritten_leaves hcue).2 hcues) ?_
    rcases hname with ⟨c, hc, hname⟩ | hfile
    · rcases List.mem_cons.1 hc with rfl | hlater
      · exact .inr (leaves_file hcue (.inl hname))
      · exact .inl ⟨c, hlater, hname⟩
    · exact .inr (leaves_file hcue (.inr hfile))

theorem written_other {plan : CaptionRenderPlan} {cues : List CaptionRenderCue}
    {d : FileTree Name β} (h : AllWritten system plan d cues) {name : Name}
    (hname : ∀ cue ∈ cues, name ≠ captionName cue.sequence) :
    written system plan cues d name = d name := by
  induction cues generalizing d with
  | nil => rfl
  | cons cue cues ih =>
    obtain ⟨hcue, hcues⟩ := List.forall_mem_cons.1 h
    obtain ⟨hne, hnot⟩ := List.forall_mem_cons.1 hname
    obtain ⟨image, heq⟩ := @leaves_of_isWritten _ _ system cue d _ hcue
    rw [written, ih ((allWritten_leaves hcue).2 hcues) hnot, heq, put_ne hne]

/-- All captions are written, or one of them is the first that is not. -/
theorem renderAll_spec (plan : CaptionRenderPlan) {cues : List CaptionRenderCue}
    {d : FileTree Name β}
    (hfolder : ∀ cue ∈ cues, isFolder (d (captionName cue.sequence)) = false) :
    (AllWritten system plan d cues ∧
        renderAll system plan cues d = (none, written system plan cues d)) ∨
      ∃ earlier cue later failure, cues = earlier ++ cue :: later ∧
        AllWritten system plan d earlier ∧ ¬(outcome system plan cue d).IsWritten ∧
        renderAll system plan cues d = (some failure,
          leaves system cue (written system plan earlier d) (outcome system plan cue d)) := by
  induction cues generalizing d with
  | nil => exact .inl ⟨nofun, rfl⟩
  | cons cue cues ih =>
    obtain ⟨hcue, hcues⟩ := List.forall_mem_cons.1 hfolder
    obtain ⟨result, heq, hiff⟩ := @renderCaption_leaves _ _ system plan _ _ hcue
    by_cases hwritten : (outcome system plan cue d).IsWritten
    · obtain ⟨image, hleaves⟩ :=
        @leaves_of_isWritten _ _ system cue d _ hwritten
      have hfile : isFile (leaves system cue d (outcome system plan cue d)
          (captionName cue.sequence)) = true := leaves_file hwritten (.inl rfl)
      have hstep : renderAll system plan (cue :: cues) d =
          renderAll system plan cues (leaves system cue d (outcome system plan cue d)) := by
        rw [renderAll, heq, hiff.2 hwritten]
        exact if_pos hfile
      have hlater : ∀ later ∈ cues, isFolder (leaves system cue d (outcome system plan cue d)
          (captionName later.sequence)) = false := by
        intro later hmem
        rw [hleaves]
        by_cases hsame : captionName later.sequence = captionName cue.sequence
        · rw [hsame, put_self]
          rfl
        · rw [put_ne hsame]
          exact hcues later hmem
      rcases ih hlater with ⟨hall, hrest⟩ | ⟨earlier, first, later, failure, hsplit, hall, hnot, hrest⟩
      · refine .inl ⟨?_, hstep.trans hrest⟩
        exact List.forall_mem_cons.2 ⟨hwritten, (allWritten_leaves hwritten).1 hall⟩
      · rw [outcome_congr (leaves_working hwritten _)] at hnot hrest
        refine .inr ⟨cue :: earlier, first, later, failure, by rw [hsplit, List.cons_append], ?_,
          hnot, hstep.trans hrest⟩
        exact List.forall_mem_cons.2 ⟨hwritten, (allWritten_leaves hwritten).1 hall⟩
    · cases result with
      | none => exact absurd (hiff.1 rfl) hwritten
      | some failure =>
        refine .inr ⟨[], cue, cues, failure, rfl, nofun, hwritten, ?_⟩
        rw [renderAll, heq]
        rfl

/-! ## Windows -/

theorem checkCues_eq_ok {plan : CaptionRenderPlan} {d : FileTree Name β}
    {cues : List CaptionRenderCue} :
    checkCues system plan d cues = .ok () ↔ ∀ cue ∈ cues,
      frameAt cue.startMs plan.outputFps < frameAt cue.endMs plan.outputFps ∧
        system.hidden (captionName cue.sequence) = false ∧
        there (d (captionName cue.sequence)) = false := by
  induction cues with
  | nil => exact iff_of_true rfl nofun
  | cons cue cues ih =>
    rw [List.forall_mem_cons, ← ih, checkCues]
    split
    · rename_i hshort
      exact iff_of_false nofun fun h => absurd h.1.1 (not_lt.2 hshort)
    · rename_i hlong
      split
      · rename_i hhidden
        exact iff_of_false nofun fun h => nomatch hhidden.symm.trans h.1.2.1
      · rename_i hseen
        split
        · rename_i hthere
          exact iff_of_false nofun fun h => nomatch hthere.symm.trans h.1.2.2
        · rename_i hfree
          exact (and_iff_right
            ⟨not_le.1 hlong, eq_false_of_ne_true hseen, eq_false_of_ne_true hfree⟩).symm

/-- What is bound of one cue. -/
structure Bound (plan : CaptionRenderPlan) (place : Place) (cue : CaptionRenderCue)
    (b : VisualCaptionOverlayBinding) : Prop where
  sequence : b.sequence = cue.sequence
  start : b.startFrame = frameAt cue.startMs plan.outputFps
  stop : b.endFrame = frameAt cue.endMs plan.outputFps
  path : b.sourcePath = String.ofList (place.file (captionName cue.sequence))

theorem makeBinding_eq_some {plan : CaptionRenderPlan} {place : Place} {cue : CaptionRenderCue}
    (hwindow : frameAt cue.startMs plan.outputFps < frameAt cue.endMs plan.outputFps) :
    (place.valid (place.file (captionName cue.sequence)) = true →
      ∃ b, makeBinding plan place cue = some b ∧ Bound plan place cue b) ∧
    (place.valid (place.file (captionName cue.sequence)) = false →
      makeBinding plan place cue = none) := by
  have hchecked : (1 ≤ cue.sequence ∧ cue.sequence ≤ maxCaptionCues) ∧
      frameAt cue.startMs plan.outputFps < frameAt cue.endMs plan.outputFps :=
    ⟨⟨cue.valid.sequence_pos, cue.valid.sequence_le⟩, hwindow⟩
  constructor
  · intro hvalid
    exact ⟨_, by rw [makeBinding, dif_pos hchecked, if_pos hvalid], rfl, rfl, rfl, rfl⟩
  · intro hvalid
    rw [makeBinding, dif_pos hchecked, if_neg (by rw [hvalid]; exact Bool.false_ne_true)]

theorem bound_layout {plan : CaptionRenderPlan} {place : Place} {cues : List CaptionRenderCue}
    {captions : List VisualCaptionOverlayBinding} {previousEnd : Nat}
    (hbound : List.Forall₂ (Bound plan place) cues captions)
    (hlayout : validCueLayout plan.durationMs previousEnd cues = true) :
    validOverlayLayout (frameAt plan.durationMs plan.outputFps)
      (frameAt previousEnd plan.outputFps) captions = true := by
  induction hbound generalizing previousEnd with
  | nil => rfl
  | cons hb _ ih =>
    simp only [validCueLayout, decide_eq_true_eq] at hlayout
    obtain ⟨hstart, hend, hrest⟩ := hlayout
    simp only [validOverlayLayout, decide_eq_true_eq, hb.start, hb.stop]
    exact ⟨frameAt_mono hstart _, frameAt_mono hend _, ih hrest⟩

omit [Editing.UnicodeData] in
/-- The windows of an overlay set lie one after the other. -/
theorem validOverlayLayout_ordered {targetFrames previousEnd : Nat}
    {captions : List VisualCaptionOverlayBinding}
    (h : validOverlayLayout targetFrames previousEnd captions = true) :
    captions.Pairwise (fun earlier later => earlier.endFrame ≤ later.startFrame) ∧
      ∀ b ∈ captions, previousEnd ≤ b.startFrame ∧ b.endFrame ≤ targetFrames := by
  induction captions generalizing previousEnd with
  | nil => exact ⟨.nil, nofun⟩
  | cons b captions ih =>
    simp only [validOverlayLayout, decide_eq_true_eq] at h
    obtain ⟨hstart, hend, hrest⟩ := h
    obtain ⟨hordered, hinside⟩ := ih hrest
    refine ⟨.cons (fun later hlater => (hinside later hlater).1) hordered, ?_⟩
    rw [List.forall_mem_cons]
    refine ⟨⟨hstart, hend⟩, fun later hlater => ?_⟩
    have hlt := b.start_lt
    exact ⟨by have := (hinside later hlater).1; omega, (hinside later hlater).2⟩

/-- The paths of all captions can be used. -/
def Fits (plan : CaptionRenderPlan) (place : Place) : Prop :=
  ∀ cue ∈ plan.cues, place.valid (place.file (captionName cue.sequence)) = true

theorem makeOverlays_of_fits {plan : CaptionRenderPlan} {place : Place} (hfits : Fits plan place)
    (hwindows : ∀ cue ∈ plan.cues,
      frameAt cue.startMs plan.outputFps < frameAt cue.endMs plan.outputFps) :
    ∃ overlays, makeOverlays plan place = some overlays ∧
      List.Forall₂ (Bound plan place) plan.cues overlays.captions ∧
      overlays.targetFrames = frameAt plan.durationMs plan.outputFps := by
  have hbindings : ∀ cue ∈ plan.cues, ∃ b, makeBinding plan place cue = some b ∧
      Bound plan place cue b :=
    fun cue hcue => (makeBinding_eq_some (hwindows cue hcue)).1 (hfits cue hcue)
  obtain ⟨captions, hcaptions⟩ := exists_forall₂ hbindings
  have hbound := hcaptions.imp fun _ _ h => h.2
  have hmapM : plan.cues.mapM (makeBinding plan place) = some captions :=
    mapM_eq_some.2 (hcaptions.imp fun _ _ h => h.1)
  have hp := plan.valid
  have hlength : captions.length = plan.cues.length := hbound.length_eq.symm
  have hsequences : captions.map (·.sequence) = plan.cues.map (·.sequence) :=
    map_eq_of_forall₂ hbound fun _ _ hb => hb.sequence
  have hlayout : validOverlayLayout (frameAt plan.durationMs plan.outputFps) 0 captions = true := by
    rw [← frameAt_zero plan.outputFps]
    exact bound_layout hbound hp.layout
  have hvalid : VisualCaptionOverlaySetFields.Valid
      { projectId := plan.projectId
        timelineId := plan.timelineId
        timelineRevision := plan.timelineRevision
        outputWidth := plan.outputWidth
        outputHeight := plan.outputHeight
        outputFps := plan.outputFps
        durationMs := plan.durationMs
        targetFrames := frameAt plan.durationMs plan.outputFps
        captions } :=
    ⟨hp.projectId, hp.timelineId, hp.revision_pos, hp.width, hp.height, hp.fps_ge, hp.fps_le,
      hp.duration_ge, hp.duration_le, rfl, by rw [hlength]; exact hp.length_le,
      by rw [hsequences]; exact hp.sequences, hlayout⟩
  refine ⟨⟨_, hvalid⟩, ?_, hbound, rfl⟩
  rw [makeOverlays, hmapM]
  exact dif_pos hvalid

theorem makeOverlays_of_not_fits {plan : CaptionRenderPlan} {place : Place}
    (hfits : ¬Fits plan place)
    (hwindows : ∀ cue ∈ plan.cues,
      frameAt cue.startMs plan.outputFps < frameAt cue.endMs plan.outputFps) :
    makeOverlays plan place = none := by
  cases hmapM : plan.cues.mapM (makeBinding plan place) with
  | none =>
    rw [makeOverlays, hmapM]
    rfl
  | some captions =>
    refine absurd (fun cue hcue => ?_) hfits
    obtain ⟨b, -, hb⟩ := forall₂_mem_right (mapM_eq_some.1 hmapM).flip hcue
    by_cases hvalid : place.valid (place.file (captionName cue.sequence)) = true
    · exact hvalid
    · rw [(makeBinding_eq_some (hwindows cue hcue)).2 (eq_false_of_ne_true hvalid)] at hb
      cases hb

end

end AutomationTool.Executor.CaptionFiles
