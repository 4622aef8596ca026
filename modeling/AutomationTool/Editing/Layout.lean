import AutomationTool.Core.Lane
import AutomationTool.Editing.Timeline

/-!
# What an accepted timeline looks like at every instant

`TimelineTrack._validate_layout` compares each clip with the one before it. `laid_out`
says what that comes to for the film: the picture runs from zero to the end without a gap,
shows two clips only inside a declared transition and each clip alone for a millisecond at
least; on every other lane one clip follows another.
-/
namespace AutomationTool.Editing

variable [UnicodeData]

namespace TimelineClip

/-- Whether a clip is on screen, or sounds, at an instant. -/
def PlaysAt (clip : TimelineClip) (x : ℚ) : Prop :=
  (clip.startMs : ℚ) ≤ x ∧ x < (clip.endMs : ℚ)

instance (clip : TimelineClip) (x : ℚ) : Decidable (clip.PlaysAt x) :=
  inferInstanceAs (Decidable (_ ∧ _))

def span (clip : TimelineClip) : Span := ⟨clip.startMs, clip.durationMs, clip.overlap⟩

@[simp] theorem span_start (clip : TimelineClip) : clip.span.start = clip.startMs := rfl
@[simp] theorem span_length (clip : TimelineClip) : clip.span.length = clip.durationMs := rfl
@[simp] theorem span_overlap (clip : TimelineClip) : clip.span.overlap = clip.overlap := rfl
@[simp] theorem span_stop (clip : TimelineClip) : clip.span.stop = clip.endMs := rfl

theorem overlap_lt (clip : TimelineClip) : clip.overlap < clip.durationMs := by
  have htr := clip.valid.transition
  have hpos := clip.valid.duration_pos
  unfold overlap
  unfold ClipFields.validateTransition at htr
  cases h : clip.transitionIn with
  | none => exact hpos
  | some transition => simpa [h] using htr

theorem overlap_eq_zero {clip : TimelineClip} : clip.overlap = 0 ↔ clip.transitionIn = none := by
  unfold overlap
  cases h : clip.transitionIn with
  | none => simp
  | some transition =>
    have := transition.durationMs_pos
    simp only [reduceCtorEq, iff_false]
    omega

end TimelineClip

/-! ## The lanes -/

/-- The picture lane of a film of that length. -/
structure PictureLane (durationMs : Nat) (clips : List TimelineClip) : Prop where
  covered : ∀ x : ℚ, 0 ≤ x → x < durationMs → ∃ clip ∈ clips, clip.PlaysAt x
  inside : ∀ clip ∈ clips, clip.endMs ≤ durationMs
  duration : durationMs + (clips.map (·.overlap)).sum = (clips.map (·.durationMs)).sum
  atMostTwo : ∀ x : ℚ, 0 ≤ x → clips.countP (fun clip => clip.PlaysAt x) ≤ 2
  shared : ∀ (x : ℚ) (i j : Nat) (hij : i < j) (hj : j < clips.length),
    clips[i].PlaysAt x → clips[j].PlaysAt x →
      j = i + 1 ∧ ∃ transition, clips[j].transitionIn = some transition ∧
        clips[i].endMs = clips[j].startMs + transition.durationMs ∧
        (clips[j].startMs : ℚ) ≤ x ∧ x < ((clips[j].startMs + transition.durationMs : Nat) : ℚ)
  alone : ∀ (i : Nat) (hi : i < clips.length), ∃ m : Nat, ∀ x : ℚ, (m : ℚ) ≤ x →
    x < ((m + 1 : Nat) : ℚ) →
      clips[i].PlaysAt x ∧ ∀ (j : Nat) (hj : j < clips.length), clips[j].PlaysAt x → j = i

/-- Any other lane. -/
structure OrderedLane (durationMs : Nat) (clips : List TimelineClip) : Prop where
  ordered : clips.Pairwise fun a b => a.endMs ≤ b.startMs
  disjoint : clips.Pairwise fun a b => ∀ x : ℚ, ¬(a.PlaysAt x ∧ b.PlaysAt x)
  inside : ∀ clip ∈ clips, clip.startMs < clip.endMs ∧ clip.endMs ≤ durationMs

def TimelineTrack.LaidOut (durationMs : Nat) (track : TimelineTrack) : Prop :=
  if track.kind = .visual then PictureLane durationMs track.clips
  else OrderedLane durationMs track.clips

/-! ## From the neighbours to the lane -/

theorem visualLayout_chained {clips : List TimelineClip} {previousEnd previousTail : Nat}
    (h : visualLayout previousEnd previousTail clips = true) :
    Span.Chained previousEnd previousTail (clips.map (·.span)) := by
  induction clips generalizing previousEnd previousTail with
  | nil => trivial
  | cons clip clips ih =>
    simp only [visualLayout, Bool.decide_and, Bool.and_eq_true, decide_eq_true_eq,
      Bool.decide_eq_true] at h
    obtain ⟨htail, hstart, hrest⟩ := h
    refine ⟨clip.overlap_lt, ?_, hstart, ih hrest⟩
    simpa [TimelineClip.overlap_eq_zero] using htail

theorem visualLayout_of_chained {clips : List TimelineClip} {previousEnd previousTail : Nat}
    (h : Span.Chained previousEnd previousTail (clips.map (·.span))) :
    visualLayout previousEnd previousTail clips = true := by
  induction clips generalizing previousEnd previousTail with
  | nil => rfl
  | cons clip clips ih =>
    obtain ⟨-, htail, hstart, hrest⟩ := h
    refine decide_eq_true ⟨?_, hstart, ih hrest⟩
    rw [← TimelineClip.overlap_eq_zero]
    exact htail

theorem pictureLane {clips : List TimelineClip} (h : visualLayout 0 0 clips = true)
    (hne : clips ≠ []) : PictureLane (clips.getLast hne).endMs clips := by
  have hchain := visualLayout_chained h
  have hstop : Span.lastStop 0 (clips.map (·.span)) = (clips.getLast hne).endMs := by
    simp [Span.lastStop_eq_getLast?, List.getLast?_eq_some_getLast hne]
  refine ⟨fun x hx hlt => ?_, fun clip hclip => ?_, ?_, fun x hx => ?_,
    fun x i j hij hj hxi hxj => ?_, fun i hi => ?_⟩
  · rw [← hstop] at hlt
    obtain ⟨s, hs, hc⟩ := hchain.covered (by simpa using hx) hlt
    obtain ⟨clip, hclip, rfl⟩ := List.mem_map.1 hs
    exact ⟨clip, hclip, hc⟩
  · rw [← hstop]
    exact hchain.stop_le_lastStop _ (List.mem_map_of_mem hclip)
  · have hsum := hchain.sum
    rw [hstop, List.map_map, List.map_map, Nat.zero_add] at hsum
    exact hsum
  · have := hchain.count_le_two hx
    rwa [List.countP_map] at this
  · have hx : 0 ≤ x := le_trans (Nat.cast_nonneg _) hxi.1
    have hi : i < clips.length := by omega
    have hcover := hchain.shared hx hij (by simpa using hj) (by rw [List.getElem_map]; exact hxi)
      (by rw [List.getElem_map]; exact hxj)
    obtain ⟨rfl, hlt⟩ := hcover
    have hnext := (hchain.next (by simpa using hj)).2
    simp only [List.getElem_map, TimelineClip.span_start, TimelineClip.span_overlap,
      TimelineClip.span_stop] at hlt hnext
    cases htr : clips[i + 1].transitionIn with
    | none =>
      have hzero := TimelineClip.overlap_eq_zero.2 htr
      rw [hzero, Nat.add_zero] at hlt
      exact absurd hlt (not_lt.2 hxj.1)
    | some transition =>
      have hov : clips[i + 1].overlap = transition.durationMs := by
        simp [TimelineClip.overlap, htr]
      rw [hov] at hlt hnext
      exact ⟨rfl, transition, rfl, hnext.symm, hxj.1, hlt⟩
  · refine ⟨clips[i].startMs + clips[i].overlap, fun x hle hlt => ?_⟩
    have hx : i < (clips.map (·.span)).length := by simpa using hi
    have halone := hchain.alone hx (by simpa using hle) (by simpa using hlt)
    rw [List.getElem_map] at halone
    refine ⟨halone.1, fun j hj hc => halone.2 j (by simpa using hj) ?_⟩
    rw [List.getElem_map]
    exact hc

theorem orderedLayout_pairwise {clips : List TimelineClip} {previousEnd : Nat}
    (h : orderedLayout previousEnd clips = true) :
    (∀ clip ∈ clips, previousEnd ≤ clip.startMs) ∧
      clips.Pairwise fun a b => a.endMs ≤ b.startMs := by
  induction clips generalizing previousEnd with
  | nil => simp
  | cons clip clips ih =>
    simp only [orderedLayout, Bool.decide_and, Bool.and_eq_true, decide_eq_true_eq,
      Bool.decide_eq_true] at h
    obtain ⟨hle, hrest⟩ := h
    obtain ⟨hafter, hpair⟩ := ih hrest
    have hend : clip.startMs ≤ clip.endMs := Nat.le_add_right _ _
    refine ⟨fun c hc => ?_, List.pairwise_cons.2 ⟨hafter, hpair⟩⟩
    rcases List.mem_cons.1 hc with rfl | hc
    · exact hle
    · have := hafter c hc
      omega

theorem orderedLayout_of_pairwise {clips : List TimelineClip} {previousEnd : Nat}
    (hafter : ∀ clip ∈ clips, previousEnd ≤ clip.startMs)
    (h : clips.Pairwise fun a b => a.endMs ≤ b.startMs) :
    orderedLayout previousEnd clips = true := by
  induction clips generalizing previousEnd with
  | nil => rfl
  | cons clip clips ih =>
    obtain ⟨hnext, hrest⟩ := List.pairwise_cons.1 h
    exact decide_eq_true ⟨hafter clip List.mem_cons_self, ih hnext hrest⟩

theorem orderedLane {clips : List TimelineClip} {durationMs : Nat}
    (h : orderedLayout 0 clips = true) (hin : ∀ clip ∈ clips, clip.endMs ≤ durationMs) :
    OrderedLane durationMs clips := by
  have hord := (orderedLayout_pairwise h).2
  refine ⟨hord, hord.imp fun {a b} hab x hx => ?_, fun clip hclip => ⟨?_, hin clip hclip⟩⟩
  · have hlt : (a.endMs : ℚ) ≤ x := le_trans (by exact_mod_cast hab) hx.2.1
    exact absurd hx.1.2 (not_lt.2 hlt)
  · have := clip.valid.duration_pos
    simp only [ClipFields.endMs]
    omega

/-- **The layout of a timeline.** It has a picture lane; that lane covers the film, and
every other lane plays one clip after another inside it. -/
theorem laid_out (t : Timeline) :
    (∃ track ∈ t.tracks, track.kind = .visual) ∧ ∀ track ∈ t.tracks, track.LaidOut t.durationMs := by
  obtain ⟨picture, hfind, hend⟩ := Option.map_eq_some_iff.1 t.valid.picture
  have hkind : picture.kind = .visual := by simpa using List.find?_some hfind
  have hpicture := List.mem_of_find?_eq_some hfind
  refine ⟨⟨picture, hpicture, hkind⟩, fun track htrack => ?_⟩
  have hlayout := track.valid.layout
  unfold TimelineTrackKind.validateLayout at hlayout
  unfold TimelineTrack.LaidOut
  split
  case isTrue hvisual =>
    -- the lanes have different kinds, so this is the lane the duration was read from
    have hsame : track = picture :=
      List.inj_on_of_nodup_map t.valid.kinds htrack hpicture (hvisual.trans hkind.symm)
    subst hsame
    rw [if_pos hvisual] at hlayout
    have hne : track.clips ≠ [] := List.length_pos_iff.1 track.valid.nonempty
    have hlast : (track.clips.getLast hne).endMs = t.durationMs := by
      rw [← hend, TimelineTrack.endMs, List.getLast?_eq_some_getLast hne]
    exact hlast ▸ pictureLane hlayout hne
  case isFalse hvisual =>
    rw [if_neg hvisual] at hlayout
    exact orderedLane hlayout (t.valid.inside track htrack)

end AutomationTool.Editing
