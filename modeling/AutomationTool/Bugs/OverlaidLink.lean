import AutomationTool.Bugs.DanglingLink
import AutomationTool.Executor.RenderExecution

/-!
# A render takes a link with it

`_execute_render` writes the captions through `render_caption_overlay_set`, which takes a symbolic
link that leads nowhere for a free name, and removes the captions' files by name when it is done:
what was under such a name before is gone, whether the render fails or not.

* `render_restored_iff`: when a failed render leaves the directory as it was, and a successful one
  adds `render.mp4` and nothing else.
* `Concrete.link_overlaid`: a render that is cancelled, and a link that was there before.
-/
namespace AutomationTool.Bugs.OverlaidLink

open Executor LocalEditing Executor.CaptionFiles Executor.RenderExecution FileTree
open DanglingLink (Accepted Free Restored render_succeeds render_fails)

section

variable (conduct : Conduct)

/-- A failed render leaves the directory as it was; one that returns adds its output, which the
receipt describes. -/
def Kept (d : FileTree Name Bytes) :
    Except VisualRenderExecutionRejection VisualRenderReceipt × FileTree Name Bytes → Prop
  | (.error _, d') => d' = d
  | (.ok receipt, d') => d outputName = none ∧ ∃ content, d' = put outputName content d ∧
      Describes conduct receipt content

/-- The render gets as far as its captions. -/
structure Begun (request : Request) (d : FileTree Name Bytes) : Prop where
  asked : request.wellFormed = true ∧ request.place.valid request.place.path = true
  place : request.resolved = true ∧ request.place.isSymlink = false ∧ request.place.isDir = true
  free : d outputName = none
  sources : conduct.sources 0 = none
  running : conduct.cancelRequested = false

/-- The working file can be removed, if there is one. -/
def Removable (captioned : Bool) (d : FileTree Name Bytes) : Prop :=
  Allocates conduct captioned d → conduct.captions.stuck (videoName conduct.random) = false

variable {conduct}

theorem allocates_congr {captioned : Bool} {d d' : FileTree Name Bytes}
    (h : d' (videoName conduct.random) = d (videoName conduct.random)) :
    Allocates conduct captioned d' ↔ Allocates conduct captioned d := by
  constructor
  · exact fun ha => ⟨ha.seen, ha.sources, ha.allocation, h ▸ ha.free⟩
  · exact fun ha => ⟨ha.seen, ha.sources, ha.allocation, h.trans ha.free⟩

/-- A working file that stays is seen. -/
theorem made_working {d made : FileTree Name Bytes}
    {result : Except VisualRenderExecutionRejection VisualRenderReceipt}
    (h : @Produced conduct d result made) :
    isFile (made (videoName conduct.random)) = true := by
  cases h with
  | failed code content =>
    rw [put_self]
    rfl
  | published receipt _ =>
    rw [put_ne (videoName_ne_output _), put_self]
    rfl

theorem failed_removed {names : List Name} {d : FileTree Name Bytes} {content : Bytes}
    (hfree : d (videoName conduct.random) = none)
    (hstuck : conduct.captions.stuck (videoName conduct.random) = false) :
    removeAll conduct.captions.stuck names (remove conduct.captions.stuck (videoName conduct.random)
        (put (videoName conduct.random) content d)) =
      removeAll conduct.captions.stuck names d := by
  rw [remove_put hfree, if_neg (by rw [hstuck]; exact Bool.false_ne_true)]

/-- The output stays, the working file it was linked from does not. -/
theorem published_removed {names : List Name} {d : FileTree Name Bytes} {content : Bytes}
    (hfree : d (videoName conduct.random) = none) (hnames : outputName ∉ names)
    (hstuck : conduct.captions.stuck (videoName conduct.random) = false) :
    removeAll conduct.captions.stuck names (remove conduct.captions.stuck (videoName conduct.random)
        (put outputName content (put (videoName conduct.random) content d))) =
      put outputName content (removeAll conduct.captions.stuck names d) := by
  have hother : put outputName content d (videoName conduct.random) = none := by
    rw [put_ne (videoName_ne_output _), hfree]
  rw [put_comm (videoName_ne_output _).symm, remove_put hother,
    if_neg (by rw [hstuck]; exact Bool.false_ne_true), removeAll_put hnames]

/-- Between the captions and the end, nothing but the working file is at stake. -/
theorem produce_kept_iff {plan : VisualRenderPlan} {overlays : Option VisualCaptionOverlaySet}
    {names : List Name} {d d' : FileTree Name Bytes}
    (hworking : d' (videoName conduct.random) = d (videoName conduct.random))
    (houtput : d' outputName = none) (hfree : d outputName = none)
    (hvideo : videoName conduct.random ∉ names) (hnames : outputName ∉ names) :
    Kept conduct d ((produce conduct plan overlays d').1,
        removeAll conduct.captions.stuck names (produce conduct plan overlays d').2) ↔
      removeAll conduct.captions.stuck names d' = d ∧ Removable conduct overlays.isSome d := by
  rw [Removable, ← allocates_congr hworking]
  by_cases hallocates : Allocates conduct overlays.isSome d'
  · obtain ⟨result, made, hproduced, heq⟩ := @produce_of_allocates _ plan _ _ hallocates
    have hnone : d (videoName conduct.random) = none := hworking.symm.trans hallocates.free
    rw [heq]
    by_cases hstuck : conduct.captions.stuck (videoName conduct.random) = true
    · have hstays : isFile (removeAll conduct.captions.stuck names
          (remove conduct.captions.stuck (videoName conduct.random) made)
            (videoName conduct.random)) = true := by
        rw [removeAll_apply, if_neg fun h => hvideo h.1, remove_apply,
          if_neg fun h => Bool.false_ne_true (h.2.1.symm.trans hstuck)]
        exact made_working hproduced
      refine iff_of_false (fun hkept => ?_) fun h =>
        Bool.false_ne_true ((h.2 hallocates).symm.trans hstuck)
      cases result with
      | error code =>
        have hsame : _ = d := hkept
        rw [hsame, hnone] at hstays
        cases hstays
      | ok receipt =>
        obtain ⟨-, content, hsame, -⟩ := hkept
        rw [hsame, put_ne (videoName_ne_output _), hnone] at hstays
        cases hstays
    · have hno := eq_false_of_ne_true hstuck
      cases hproduced with
      | failed code content =>
        rw [failed_removed hallocates.free hno]
        exact ⟨fun h => ⟨h, fun _ => hno⟩, fun h => h.1⟩
      | published receipt hdescribes =>
        rw [published_removed hallocates.free hnames hno]
        constructor
        · rintro ⟨-, content, hsame, -⟩
          refine ⟨funext fun name => ?_, fun _ => hno⟩
          by_cases hname : name = outputName
          · rw [hname, removeAll_apply, if_neg fun h => hnames h.1, houtput, hfree]
          · have hother := congrFun hsame name
            rwa [put_ne hname, put_ne hname] at hother
        · intro h
          exact ⟨hfree, conduct.content, by rw [h.1], hdescribes⟩
  · obtain ⟨code, heq⟩ := @produce_of_not_allocates _ plan _ _ hallocates
    rw [heq]
    exact ⟨fun h => ⟨h, fun ha => absurd ha hallocates⟩, fun h => h.1⟩

variable [Editing.UnicodeData]

/-- The captions' files can be taken back when nothing was under their names. -/
theorem removeAll_written_iff {β : Type} {system : System β} {plan : CaptionRenderPlan}
    {place : Place} {d : FileTree Name β} (haccepted : Accepted system plan place d)
    (hall : AllWritten system plan d plan.cues) :
    removeAll system.stuck (destinations plan) (written system plan plan.cues d) = d ↔
      ∀ cue ∈ plan.cues, Free system d (captionName cue.sequence) := by
  constructor
  · intro h cue hcue
    exact DanglingLink.free_of_restored haccepted hcue (written_file hall (.inl ⟨cue, hcue, rfl⟩)) h
  · intro h
    funext name
    rw [removeAll_apply]
    by_cases hname : ∃ cue ∈ plan.cues, name = captionName cue.sequence
    · obtain ⟨cue, hcue, rfl⟩ := hname
      obtain ⟨hnone, hstuck⟩ := h cue hcue
      rw [if_pos ⟨DanglingLink.mem_destinations hcue, hstuck,
        DanglingLink.not_folder_of_file (written_file hall (.inl ⟨cue, hcue, rfl⟩))⟩, hnone]
    · rw [if_neg fun hgone => ?_, written_other hall fun cue hcue heq => hname ⟨cue, hcue, heq⟩]
      obtain ⟨cue, hcue, heq⟩ := List.mem_map.1 hgone.1
      exact hname ⟨cue, hcue, heq.symm⟩

theorem not_mem_destinations {plan : CaptionRenderPlan} {name : Name}
    (h : ∀ sequence, name ≠ captionName sequence) : name ∉ destinations plan := by
  intro hmem
  obtain ⟨cue, -, heq⟩ := List.mem_map.1 hmem
  exact h cue.sequence heq.symm

/-- The checks that come before the captions have passed. -/
theorem execute_plain {request : Request} {d : FileTree Name Bytes} (h : Begun conduct request d) :
    executeRender conduct request none d = produce conduct request.plan none d := by
  simp only [executeRender, h.asked.1, h.asked.2, h.place.1, h.place.2.1, h.place.2.2, h.free,
    h.sources, h.running, Bool.not_true, Bool.or_self, Bool.false_eq_true, if_false,
    Option.isSome_none]

theorem execute_captioned {request : Request} {plan : CaptionRenderPlan}
    {d d' : FileTree Name Bytes} {overlays : VisualCaptionOverlaySet}
    (h : Begun conduct request d)
    (heq : renderCaptionOverlaySet conduct.captions plan request.place d = (.ok overlays, d')) :
    executeRender conduct request (some plan) d =
      ((produce conduct request.plan (some overlays) d').1,
        removeAll conduct.captions.stuck (destinations plan)
          (produce conduct request.plan (some overlays) d').2) := by
  simp only [executeRender, h.asked.1, h.asked.2, h.place.1, h.place.2.1, h.place.2.2, h.free,
    h.sources, h.running, Bool.not_true, Bool.or_self, Bool.false_eq_true, if_false,
    Option.isSome_none, heq]

theorem execute_uncaptioned {request : Request} {plan : CaptionRenderPlan}
    {d d' : FileTree Name Bytes} {failure : Failure} (h : Begun conduct request d)
    (heq : renderCaptionOverlaySet conduct.captions plan request.place d = (.error failure, d')) :
    ∃ code, executeRender conduct request (some plan) d = (.error code, d') := by
  simp only [executeRender, h.asked.1, h.asked.2, h.place.1, h.place.2.1, h.place.2.2, h.free,
    h.sources, h.running, Bool.not_true, Bool.or_self, Bool.false_eq_true, if_false,
    Option.isSome_none, heq]
  cases failure <;> exact ⟨_, rfl⟩

theorem execute_of_not_begun {request : Request} {captionPlan : Option CaptionRenderPlan}
    {d : FileTree Name Bytes} (h : ¬Begun conduct request d) :
    ∃ code, executeRender conduct request captionPlan d = (.error code, d) := by
  simp only [executeRender]
  split
  · exact ⟨_, rfl⟩
  split
  · exact ⟨_, rfl⟩
  split
  · exact ⟨_, rfl⟩
  split
  · exact ⟨_, rfl⟩
  split
  · exact ⟨_, rfl⟩
  rename_i hrequest hplace hfree _ hsources hrunning
  refine absurd ⟨?_, ?_, ?_, hsources, eq_false_of_ne_true hrunning⟩ h
  · simpa using hrequest
  · simpa [and_assoc] using hplace
  · rwa [Bool.not_eq_true, Option.isSome_eq_false_iff, Option.isNone_iff_eq_none] at hfree

theorem render_restored_iff (conduct : Conduct) (request : Request)
    (captionPlan : Option CaptionRenderPlan) (d : FileTree Name Bytes) :
    Kept conduct d (executeRender conduct request captionPlan d) ↔
      ¬Begun conduct request d ∨
      (captionPlan = none ∧ Removable conduct false d) ∨
      ∃ plan, captionPlan = some plan ∧
        (¬Accepted conduct.captions plan request.place d ∨
        (AllWritten conduct.captions plan d plan.cues ∧ Fits plan request.place ∧
          (∀ cue ∈ plan.cues, Free conduct.captions d (captionName cue.sequence)) ∧
          Removable conduct true d) ∨
        ∃ earlier cue later, plan.cues = earlier ++ cue :: later ∧
          AllWritten conduct.captions plan d earlier ∧
          ¬(outcome conduct.captions plan cue d).IsWritten ∧
          Restored conduct.captions plan d earlier cue later) := by
  by_cases hbegun : Begun conduct request d
  · cases captionPlan with
    | none =>
      rw [execute_plain hbegun]
      have hkept := @produce_kept_iff conduct request.plan none [] d _ rfl hbegun.free hbegun.free (by simp) (by simp)
      refine hkept.trans ⟨fun h => .inr (.inl ⟨rfl, h.2⟩), ?_⟩
      rintro (hno | ⟨-, hremovable⟩ | ⟨plan, hplan, -⟩)
      · exact absurd hbegun hno
      · exact ⟨rfl, hremovable⟩
      · cases hplan
    | some plan =>
      by_cases hgood : Accepted conduct.captions plan request.place d ∧
          AllWritten conduct.captions plan d plan.cues ∧ Fits plan request.place
      · obtain ⟨haccepted, hall, hfits⟩ := hgood
        obtain ⟨overlays, heq, -⟩ := render_succeeds haccepted hall hfits
        rw [execute_captioned hbegun heq]
        refine (produce_kept_iff
          (written_other hall fun cue _ => videoName_ne_caption _ _)
          ((written_other hall fun cue _ => (captionName_ne_output _).symm).trans hbegun.free)
          hbegun.free (not_mem_destinations (videoName_ne_caption _))
          (not_mem_destinations fun sequence => (captionName_ne_output sequence).symm)).trans ?_
        rw [removeAll_written_iff haccepted hall]
        constructor
        · exact fun h => .inr (.inr ⟨plan, rfl, .inr (.inl ⟨hall, hfits, h.1, h.2⟩)⟩)
        · rintro (hno | ⟨hnone, -⟩ | ⟨plan', hplan, h⟩)
          · exact absurd hbegun hno
          · cases hnone
          · cases hplan
            rcases h with hno | ⟨-, -, hfree, hremovable⟩ | ⟨_, cue, _, hsplit, -, hnot, -⟩
            · exact absurd haccepted hno
            · exact ⟨hfree, hremovable⟩
            · exact absurd (hall cue
                (by rw [hsplit]; exact List.mem_append_right _ List.mem_cons_self)) hnot
      · obtain ⟨failure, d', heq, hsame⟩ := render_fails hgood
        obtain ⟨code, hexecute⟩ := execute_uncaptioned hbegun heq
        rw [hexecute]
        refine hsame.trans ⟨fun h => .inr (.inr ⟨plan, rfl, Or.imp_right .inr h⟩), ?_⟩
        rintro (hno | ⟨hnone, -⟩ | ⟨plan', hplan, h⟩)
        · exact absurd hbegun hno
        · cases hnone
        · cases hplan
          rcases h with hno | ⟨hall, hfits, -, -⟩ | hrestored
          · exact .inl hno
          · exact .inl fun haccepted => hgood ⟨haccepted, hall, hfits⟩
          · exact .inr hrestored
  · obtain ⟨code, heq⟩ := @execute_of_not_begun _ _ _ captionPlan _ hbegun
    rw [heq]
    exact iff_of_true rfl (.inl hbegun)

end

namespace Concrete

open scoped DanglingLink.Concrete

/-- A still for a second. -/
def still : VisualRenderClip where
  sequence := 1
  materialId := 0x00000000000040008000000000000003
  kind := .image
  startMs := 0
  durationMs := 1000
  sourceInMs := none
  sourceOutMs := none
  transitionKind := none
  transitionDurationMs := none
  valid := by decide +kernel

def request : Request where
  plan :=
    { projectId := 0x00000000000040008000000000000001
      timelineId := 0x00000000000040008000000000000002
      timelineRevision := 1
      outputWidth := 1080
      outputHeight := 1920
      outputFps := 30
      durationMs := 1000
      clips := [still]
      valid := by decide +kernel }
  wellFormed := true
  place := DanglingLink.Concrete.task
  resolved := true

/-- The captions are written, and the user cancels while FFmpeg runs. -/
def cancelled : Conduct where
  captions :=
    { draw := fun _ _ _ _ => some []
      random := fun _ => ['x']
      unfinished := fun _ => []
      fault := fun _ => none
      hidden := fun _ => false
      stuck := fun _ => false }
  sources _ := none
  cancelRequested := false
  captionsSeen := true
  random := ['y']
  allocation := .done
  command _ := .ok ⟨30, false⟩
  content := []
  ffmpeg := .cancelled
  captionsUnchanged := true
  toolsUsable := true
  ffprobe _ := .finished 0 none
  sameAfterProbe := true
  readable := true
  sameAfterDigest := true
  sha256 _ := []
  link := none

/-- Nothing but a link that leads nowhere, under the name of the caption. -/
def linked : FileTree Name Bytes := fun name =>
  if name = captionName 1 then some (.link false) else none

/-- The render is cancelled, and the link is gone. -/
theorem link_overlaid :
    ¬Kept cancelled linked
      (executeRender cancelled request (some DanglingLink.Concrete.film) linked) := by
  have hcode : (executeRender cancelled request (some DanglingLink.Concrete.film) linked).1 =
      .error .cancelled := rfl
  have hgone : (executeRender cancelled request (some DanglingLink.Concrete.film) linked).2
      (captionName 1) = none := by decide +kernel
  intro h
  rw [← Prod.mk.eta (p := executeRender cancelled request _ linked), hcode] at h
  have hsame : (executeRender cancelled request (some DanglingLink.Concrete.film) linked).2 =
      linked := h
  rw [hsame] at hgone
  cases hgone

end Concrete

end AutomationTool.Bugs.OverlaidLink
