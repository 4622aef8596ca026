import AutomationTool.Executor.CaptionFiles

/-!
# A failed caption takes a link with it

`render_caption_overlay_set` asks `destination.exists()` before it writes, and a symbolic link that
leads nowhere does not exist: the link is moved away by the caption's file, or removed with the
names of all captions when any of them fails. `_execute_render` asks for the link itself. The paths
of the files are looked at only after they were written, and a path that is too long leaves them
all behind.

* `captions_restored_iff`: when the directory is as it was after a failed call.
* `Concrete.link_lost`: a font that cannot be opened, and a link that was there before.
-/
namespace AutomationTool.Bugs.DanglingLink

open Executor LocalEditing Executor.CaptionFiles FileTree

section

variable [Editing.UnicodeData] {β : Type}

/-- What a caption set that was rendered has to be. -/
structure Rendered (plan : CaptionRenderPlan) (place : Place) (overlays : VisualCaptionOverlaySet)
    (d : FileTree Name β) : Prop where
  distinct : (destinations plan).Nodup
  files : ∀ cue ∈ plan.cues, isFile (d (captionName cue.sequence)) = true
  bound : List.Forall₂ (Bound plan place) plan.cues overlays.captions
  ordered : overlays.captions.Pairwise fun earlier later => earlier.endFrame ≤ later.startFrame
  inside : ∀ b ∈ overlays.captions, b.startFrame < b.endFrame ∧
    b.endFrame ≤ frameAt plan.durationMs plan.outputFps

/-- A failed call leaves the directory as it was, and one that returns has rendered the set. -/
def Kept (plan : CaptionRenderPlan) (place : Place) (d : FileTree Name β) :
    Except Failure VisualCaptionOverlaySet × FileTree Name β → Prop
  | (.error _, d') => d' = d
  | (.ok overlays, d') => Rendered plan place overlays d'

/-- Nothing is rejected before the first caption is drawn. -/
structure Accepted (system : System β) (plan : CaptionRenderPlan) (place : Place)
    (d : FileTree Name β) : Prop where
  place : place.valid place.path = true ∧ place.isSymlink = false ∧ place.isDir = true
  cues : ∀ cue ∈ plan.cues, frameAt cue.startMs plan.outputFps < frameAt cue.endMs plan.outputFps ∧
    system.hidden (captionName cue.sequence) = false ∧ there (d (captionName cue.sequence)) = false

/-- The name was free and what is written there can be removed. -/
def Free (system : System β) (d : FileTree Name β) (name : Name) : Prop :=
  d name = none ∧ system.stuck name = false

/-- Removing the name changes nothing. -/
def Spared (system : System β) (d : FileTree Name β) (name : Name) : Prop :=
  d name = none ∨ system.stuck name = true

/-- What was there when the first caption that fails came up, and what resists removal. -/
structure Restored (system : System β) (plan : CaptionRenderPlan) (d : FileTree Name β)
    (earlier : List CaptionRenderCue) (cue : CaptionRenderCue) (later : List CaptionRenderCue) :
    Prop where
  written : ∀ k ∈ earlier, Free system d (captionName k.sequence)
  moved : (outcome system plan cue d).Moves → Free system d (captionName cue.sequence)
  spared : ∀ k ∈ cue :: later, Spared system d (captionName k.sequence)
  working : (outcome system plan cue d).Unfinished →
    system.stuck (workingName (system.random cue.sequence)) = false

variable {system : System β} {plan : CaptionRenderPlan} {place : Place} {d : FileTree Name β}

/-! ## The call -/

theorem render_of_not_accepted (h : ¬Accepted system plan place d) :
    ∃ failure, renderCaptionOverlaySet system plan place d = (.error failure, d) := by
  simp only [renderCaptionOverlaySet]
  by_cases hplace : (!place.valid place.path || place.isSymlink || !place.isDir) = true
  · exact ⟨_, if_pos hplace⟩
  · rw [if_neg hplace]
    cases hcheck : checkCues system plan d plan.cues with
    | error failure => exact ⟨failure, rfl⟩
    | ok =>
      refine absurd ⟨?_, checkCues_eq_ok.1 hcheck⟩ h
      simpa [and_assoc] using hplace

theorem render_of_accepted (h : Accepted system plan place d) :
    renderCaptionOverlaySet system plan place d =
      match renderAll system plan plan.cues d with
      | (some failure, d') => (.error failure, removeAll system.stuck (destinations plan) d')
      | (none, d') =>
        match makeOverlays plan place with
        | none => (.error (.rejected .invalidPlan), d')
        | some overlays => (.ok overlays, d') := by
  obtain ⟨hvalid, hlink, hdir⟩ := h.place
  simp only [renderCaptionOverlaySet, hvalid, hlink, hdir, Bool.not_true, Bool.or_false,
    Bool.false_eq_true, if_false, checkCues_eq_ok.2 h.cues] <;> rfl

theorem Accepted.not_folder (h : Accepted system plan place d) :
    ∀ cue ∈ plan.cues, isFolder (d (captionName cue.sequence)) = false := by
  intro cue hcue
  have hthere := (h.cues cue hcue).2.2
  cases hentry : d (captionName cue.sequence) with
  | none => rfl
  | some entry =>
    rw [hentry] at hthere
    cases entry with
    | folder => cases hthere
    | _ => rfl

theorem Accepted.not_file (h : Accepted system plan place d) {cue : CaptionRenderCue}
    (hcue : cue ∈ plan.cues) : isFile (d (captionName cue.sequence)) = false := by
  have hthere := (h.cues cue hcue).2.2
  cases hentry : d (captionName cue.sequence) with
  | none => rfl
  | some entry =>
    rw [hentry] at hthere
    cases entry with
    | file => cases hthere
    | _ => rfl

/-! ## The directory when a caption fails -/

omit [Editing.UnicodeData] in
theorem isFile_ne {d d' : FileTree Name β} {name : Name} (h : isFile (d' name) = true)
    (hd : isFile (d name) = false) : d' name ≠ d name := by
  intro heq
  rw [heq, hd] at h
  cases h

omit [Editing.UnicodeData] in
theorem not_folder_of_file {e : Option (FileEntry β)} (h : isFile e = true) : isFolder e = false := by
  cases e with
  | none => rfl
  | some entry => cases entry <;> first | rfl | cases h

section

variable {earlier later : List CaptionRenderCue} {cue : CaptionRenderCue}

/-- What was moved to the name of a caption is a file. -/
theorem failed_file (hall : AllWritten system plan d earlier) {name : Name}
    (hname : (∃ k ∈ earlier, name = captionName k.sequence) ∨
      (outcome system plan cue d).Moves ∧ name = captionName cue.sequence) :
    isFile (leaves system cue (written system plan earlier d) (outcome system plan cue d) name) =
      true := by
  have hearlier : (∃ k ∈ earlier, name = captionName k.sequence) →
      isFile (written system plan earlier d name) = true :=
    fun h => written_file hall (.inl h)
  cases houtcome : outcome system plan cue d with
  | refused =>
    rw [houtcome] at hname
    exact hearlier (hname.resolve_right fun h => h.1)
  | unwritten =>
    rw [houtcome] at hname
    obtain ⟨k, hk, rfl⟩ := hname.resolve_right fun h => h.1
    simp only [leaves]
    split
    · rw [put_ne (workingName_ne _ _).symm]
      exact hearlier ⟨k, hk, rfl⟩
    · exact hearlier ⟨k, hk, rfl⟩
  | moved image | written image =>
    simp only [leaves]
    by_cases hsame : name = captionName cue.sequence
    · rw [hsame, put_self]
      rfl
    · rw [put_ne hsame]
      exact hearlier (hname.resolve_right fun h => hsame h.2)

/-- Other names are as they were, but for the working file that stays. -/
theorem failed_other (hall : AllWritten system plan d earlier) {name : Name}
    (hearlier : ∀ k ∈ earlier, name ≠ captionName k.sequence)
    (hmoved : (outcome system plan cue d).Moves → name ≠ captionName cue.sequence)
    (hworking : (outcome system plan cue d).Unfinished →
      system.stuck (workingName (system.random cue.sequence)) = true →
        name ≠ workingName (system.random cue.sequence)) :
    leaves system cue (written system plan earlier d) (outcome system plan cue d) name = d name := by
  have hbefore := written_other hall hearlier
  cases houtcome : outcome system plan cue d with
  | refused => exact hbefore
  | unwritten =>
    rw [houtcome] at hworking
    simp only [leaves]
    split
    · rename_i hstuck
      rw [put_ne (hworking trivial hstuck), hbefore]
    · exact hbefore
  | moved image | written image =>
    rw [houtcome] at hmoved
    simp only [leaves]
    rw [put_ne (hmoved trivial), hbefore]

/-- The name of a working file is none of the captions'. -/
theorem working_not_mem (random : Name) : workingName random ∉ destinations plan := by
  intro h
  obtain ⟨k, -, hk⟩ := List.mem_map.1 h
  exact workingName_ne random _ hk.symm

theorem mem_destinations {k : CaptionRenderCue} (hk : k ∈ plan.cues) :
    captionName k.sequence ∈ destinations plan := List.mem_map.2 ⟨k, hk, rfl⟩

/-- A file that was moved to a name is gone and nothing was there before. -/
theorem free_of_restored (haccepted : Accepted system plan place d) {k : CaptionRenderCue}
    (hk : k ∈ plan.cues) {d' : FileTree Name β} (hfile : isFile (d' (captionName k.sequence)) = true)
    (h : removeAll system.stuck (destinations plan) d' = d) :
    Free system d (captionName k.sequence) := by
  have hname := congrFun h (captionName k.sequence)
  rw [removeAll_apply] at hname
  by_cases hstuck : system.stuck (captionName k.sequence) = true
  · rw [if_neg fun hgone => Bool.false_ne_true (hgone.2.1.symm.trans hstuck)] at hname
    exact absurd hname (isFile_ne hfile (haccepted.not_file hk))
  · have hno := eq_false_of_ne_true hstuck
    rw [if_pos ⟨mem_destinations hk, hno, not_folder_of_file hfile⟩] at hname
    exact ⟨hname.symm, hno⟩

theorem spared_of_restored (haccepted : Accepted system plan place d) {k : CaptionRenderCue}
    (hk : k ∈ plan.cues) {d' : FileTree Name β}
    (hsame : d' (captionName k.sequence) = d (captionName k.sequence))
    (h : removeAll system.stuck (destinations plan) d' = d) :
    Spared system d (captionName k.sequence) := by
  have hname := congrFun h (captionName k.sequence)
  rw [removeAll_apply, hsame] at hname
  by_cases hstuck : system.stuck (captionName k.sequence) = true
  · exact .inr hstuck
  · rw [if_pos ⟨mem_destinations hk, eq_false_of_ne_true hstuck, haccepted.not_folder k hk⟩] at hname
    exact .inl hname.symm

theorem restored_of_eq (haccepted : Accepted system plan place d)
    (hsplit : plan.cues = earlier ++ cue :: later) (hall : AllWritten system plan d earlier)
    (h : removeAll system.stuck (destinations plan)
      (leaves system cue (written system plan earlier d) (outcome system plan cue d)) = d) :
    Restored system plan d earlier cue later := by
  have hmem : ∀ k, k ∈ earlier ∨ k ∈ cue :: later → k ∈ plan.cues := by
    intro k hk
    rw [hsplit]
    exact List.mem_append.2 hk
  have hwritten : ∀ k ∈ earlier, Free system d (captionName k.sequence) := fun k hk =>
    free_of_restored haccepted (hmem k (.inl hk)) (failed_file hall (.inl ⟨k, hk, rfl⟩)) h
  have hmoved : (outcome system plan cue d).Moves → Free system d (captionName cue.sequence) :=
    fun hm => free_of_restored haccepted (hmem cue (.inr List.mem_cons_self))
      (failed_file hall (.inr ⟨hm, rfl⟩)) h
  refine ⟨hwritten, hmoved, fun k hk => ?_, fun hunfinished => ?_⟩
  · by_cases hearlier : ∃ k' ∈ earlier, captionName k.sequence = captionName k'.sequence
    · obtain ⟨k', hk', heq⟩ := hearlier
      rw [heq]
      exact .inl (hwritten k' hk').1
    · by_cases hcue : (outcome system plan cue d).Moves ∧
          captionName k.sequence = captionName cue.sequence
      · rw [hcue.2]
        exact .inl (hmoved hcue.1).1
      · refine spared_of_restored haccepted (hmem k (.inr hk)) ?_ h
        exact failed_other hall (fun k' hk' heq => hearlier ⟨k', hk', heq⟩)
          (fun hm heq => hcue ⟨hm, heq⟩) fun _ _ => (workingName_ne _ _).symm
  · by_cases hstuck : system.stuck (workingName (system.random cue.sequence)) = true
    · have hname := congrFun h (workingName (system.random cue.sequence))
      rw [removeAll_apply, if_neg fun hgone => working_not_mem _ hgone.1] at hname
      cases houtcome : outcome system plan cue d with
      | unwritten =>
        rw [houtcome] at hname
        simp only [leaves, hstuck, if_true, put_self] at hname
        have hfree : d (workingName (system.random cue.sequence)) = none := unwritten_free houtcome
        rw [hfree] at hname
        cases hname
      | _ =>
        rw [houtcome] at hunfinished
        cases hunfinished
    · exact eq_false_of_ne_true hstuck

theorem eq_of_restored (hsplit : plan.cues = earlier ++ cue :: later)
    (hall : AllWritten system plan d earlier)
    (h : Restored system plan d earlier cue later) :
    removeAll system.stuck (destinations plan)
      (leaves system cue (written system plan earlier d) (outcome system plan cue d)) = d := by
  funext name
  rw [removeAll_apply]
  by_cases hfile : (∃ k ∈ earlier, name = captionName k.sequence) ∨
      (outcome system plan cue d).Moves ∧ name = captionName cue.sequence
  · have hfree : name ∈ destinations plan ∧ Free system d name := by
      rcases hfile with ⟨k, hk, rfl⟩ | ⟨hm, rfl⟩
      · exact ⟨mem_destinations (by rw [hsplit]; exact List.mem_append_left _ hk), h.written k hk⟩
      · exact ⟨mem_destinations (by rw [hsplit]; exact List.mem_append_right _ List.mem_cons_self),
          h.moved hm⟩
    rw [if_pos ⟨hfree.1, hfree.2.2, not_folder_of_file (failed_file hall hfile)⟩, hfree.2.1]
  · obtain ⟨hearlier, hmoved⟩ := not_or.1 hfile
    rw [failed_other hall (fun k hk heq => hearlier ⟨k, hk, heq⟩) (fun hm heq => hmoved ⟨hm, heq⟩)
      fun hunfinished hstuck => nomatch hstuck.symm.trans (h.working hunfinished)]
    by_cases hgone : name ∈ destinations plan ∧ system.stuck name = false ∧
        isFolder (d name) = false
    · rw [if_pos hgone]
      obtain ⟨k, hk, rfl⟩ := List.mem_map.1 hgone.1
      have hlater : k ∈ cue :: later := by
        rw [hsplit] at hk
        exact (List.mem_append.1 hk).resolve_left fun hk => hearlier ⟨k, hk, rfl⟩
      rcases h.spared k hlater with hnone | hstuck
      · exact hnone.symm
      · exact nomatch hstuck.symm.trans hgone.2.1
    · rw [if_neg hgone]

end

/-! ## The whole call -/

omit [Editing.UnicodeData] in
/-- There is one first element without a property. -/
theorem first_unique {α : Type} {P : α → Prop} {e₁ e₂ l₁ l₂ : List α} {c₁ c₂ : α}
    (h : e₁ ++ c₁ :: l₁ = e₂ ++ c₂ :: l₂) (he₁ : ∀ x ∈ e₁, P x) (he₂ : ∀ x ∈ e₂, P x)
    (hc₁ : ¬P c₁) (hc₂ : ¬P c₂) : e₁ = e₂ ∧ c₁ = c₂ ∧ l₁ = l₂ := by
  induction e₁ generalizing e₂ with
  | nil =>
    cases e₂ with
    | nil =>
      cases h
      exact ⟨rfl, rfl, rfl⟩
    | cons x e₂ =>
      cases h
      exact absurd (he₂ _ List.mem_cons_self) hc₁
  | cons x e₁ ih =>
    cases e₂ with
    | nil =>
      cases h
      exact absurd (he₁ _ List.mem_cons_self) hc₂
    | cons y e₂ =>
      rw [List.cons_append, List.cons_append, List.cons.injEq] at h
      obtain ⟨heq, hc, hl⟩ := ih h.2 (fun x hx => he₁ x (List.mem_cons_of_mem _ hx))
        fun x hx => he₂ x (List.mem_cons_of_mem _ hx)
      exact ⟨by rw [h.1, heq], hc, hl⟩

theorem render_succeeds (haccepted : Accepted system plan place d)
    (hall : AllWritten system plan d plan.cues) (hfits : Fits plan place) :
    ∃ overlays, renderCaptionOverlaySet system plan place d =
        (.ok overlays, written system plan plan.cues d) ∧
      Rendered plan place overlays (written system plan plan.cues d) := by
  obtain ⟨overlays, hmake, hbound, htarget⟩ :=
    makeOverlays_of_fits hfits fun cue hcue => (haccepted.cues cue hcue).1
  obtain ⟨hordered, hinside⟩ := validOverlayLayout_ordered overlays.valid.layout
  refine ⟨overlays, ?_, destinations_nodup plan,
    fun cue hcue => written_file hall (.inl ⟨cue, hcue, rfl⟩), hbound, hordered, fun b hb => ?_⟩
  · rw [render_of_accepted haccepted]
    rcases renderAll_spec plan haccepted.not_folder with ⟨-, heq⟩ | ⟨_, cue, _, _, hsplit, -, hnot, -⟩
    · rw [heq, hmake]
    · exact absurd (hall cue (by rw [hsplit]; exact List.mem_append_right _ List.mem_cons_self)) hnot
  · rw [← htarget]
    exact ⟨b.start_lt, (hinside b hb).2⟩

/-- What a call that fails leaves. -/
theorem render_fails
    (h : ¬(Accepted system plan place d ∧ AllWritten system plan d plan.cues ∧ Fits plan place)) :
    ∃ failure d', renderCaptionOverlaySet system plan place d = (.error failure, d') ∧
      (d' = d ↔ ¬Accepted system plan place d ∨
        ∃ earlier cue later, plan.cues = earlier ++ cue :: later ∧
          AllWritten system plan d earlier ∧ ¬(outcome system plan cue d).IsWritten ∧
          Restored system plan d earlier cue later) := by
  by_cases haccepted : Accepted system plan place d
  · rw [render_of_accepted haccepted]
    rcases renderAll_spec plan haccepted.not_folder with
      ⟨hall, heq⟩ | ⟨earlier, cue, later, failure, hsplit, hall, hnot, heq⟩
    · have hfits : ¬Fits plan place := fun hfits => h ⟨haccepted, hall, hfits⟩
      rw [heq, makeOverlays_of_not_fits hfits fun cue hcue => (haccepted.cues cue hcue).1]
      refine ⟨_, _, rfl, iff_of_false (fun hsame => ?_) ?_⟩
      · refine hfits fun cue hcue => absurd (congrFun hsame (captionName cue.sequence)) ?_
        exact isFile_ne (written_file hall (.inl ⟨cue, hcue, rfl⟩)) (haccepted.not_file hcue)
      · rintro (hrefused | ⟨earlier, cue, later, hsplit, -, hnot, -⟩)
        · exact hrefused haccepted
        · exact hnot (hall cue (by rw [hsplit]; exact List.mem_append_right _ List.mem_cons_self))
    · rw [heq]
      refine ⟨_, _, rfl, fun hsame => ?_, ?_⟩
      · exact .inr ⟨earlier, cue, later, hsplit, hall, hnot,
          restored_of_eq haccepted hsplit hall hsame⟩
      · rintro (hrefused | ⟨earlier', cue', later', hsplit', hall', hnot', hrestored⟩)
        · exact absurd haccepted hrefused
        · obtain ⟨rfl, rfl, rfl⟩ := first_unique (hsplit.symm.trans hsplit') hall hall' hnot hnot'
          exact eq_of_restored hsplit hall hrestored
  · obtain ⟨failure, heq⟩ := render_of_not_accepted haccepted
    exact ⟨failure, d, heq, iff_of_true rfl (.inl haccepted)⟩

theorem captions_restored_iff (system : System β) (plan : CaptionRenderPlan) (place : Place)
    (d : FileTree Name β) :
    Kept plan place d (renderCaptionOverlaySet system plan place d) ↔
      ¬Accepted system plan place d ∨
      (AllWritten system plan d plan.cues ∧ Fits plan place) ∨
      ∃ earlier cue later, plan.cues = earlier ++ cue :: later ∧
        AllWritten system plan d earlier ∧ ¬(outcome system plan cue d).IsWritten ∧
        Restored system plan d earlier cue later := by
  by_cases hgood : Accepted system plan place d ∧ AllWritten system plan d plan.cues ∧
      Fits plan place
  · obtain ⟨haccepted, hwritten⟩ := hgood
    obtain ⟨overlays, heq, hrendered⟩ := render_succeeds haccepted hwritten.1 hwritten.2
    rw [heq]
    exact iff_of_true hrendered (.inr (.inl hwritten))
  · obtain ⟨failure, d', heq, hsame⟩ := render_fails hgood
    rw [heq]
    refine hsame.trans ⟨Or.imp_right .inr, ?_⟩
    rintro (hrefused | hwritten | hrestored)
    · exact .inl hrefused
    · exact .inl fun haccepted => hgood ⟨haccepted, hwritten⟩
    · exact .inr hrestored

end

namespace Concrete

/-- The ASCII part of the character database. -/
scoped instance ascii : Editing.UnicodeData where
  isSpace c := c.isWhitespace
  isOther c := c.val < 32 ∨ c.val = 127

def style : CaptionRenderStyle where
  fontKey := ['f']
  fontPx := 20
  strokePx := 0
  lineSpacing := 1
  valid := ⟨by decide, by decide, by decide, by decide, by decide +kernel, by decide +kernel,
    by decide⟩

def caption : CaptionRenderCue where
  sequence := 1
  startMs := 0
  durationMs := 1000
  text := ['a']
  valid := ⟨by decide, by decide, by decide, by decide, by decide, by decide⟩

def film : CaptionRenderPlan where
  projectId := 0x00000000000040008000000000000001
  timelineId := 0x00000000000040008000000000000002
  timelineRevision := 1
  outputWidth := 1080
  outputHeight := 1920
  outputFps := 30
  durationMs := 1000
  style := style
  cues := [caption]
  valid := ⟨by decide +kernel, by decide +kernel, by decide, by decide, by decide, by decide,
    by decide, by decide, by decide, by decide, by decide, by decide, by decide⟩

/-- The font of the captions cannot be opened. -/
def noFont : System Unit where
  draw _ _ _ _ := none
  random _ := ['x']
  unfinished _ := ()
  fault _ := none
  hidden _ := false
  stuck _ := false

def task : Place where
  path := ['/', 't']
  isAbsolute := true
  isSymlink := false
  isDir := true

/-- Nothing but a link that leads nowhere, under the name of the caption. -/
def linked : FileTree Name Unit := fun name =>
  if name = captionName 1 then some (.link false) else none

/-- Nothing was drawn, and the link is gone. -/
theorem link_lost : ¬Kept film task linked (renderCaptionOverlaySet noFont film task linked) := by
  intro h
  have hgone : removeAll noFont.stuck (destinations film) linked = linked := h
  have hname := congrFun hgone (captionName 1)
  revert hname
  decide

end Concrete

end AutomationTool.Bugs.DanglingLink
