import AutomationTool.Editing.Materials

/-!
# The clips of a recorded script

A recording of a whole script is cut at the pauses between its speech segments, one clip for
every sentence. A sentence ends with the segment up to which about as much has been spoken as
has been written, as long as every later sentence still gets a segment.

How near a segment is to that point is a float; `distance` stands for it, with any order.

* `clipsFrom_spec`: from a segment on, the sentences that are left get clips whenever there are
  as many segments as sentences.
* `clipsFromSegments_spec`: the clips are the hulls of groups of neighbouring segments.
-/
namespace AutomationTool.Executor.ScriptRecording

open Editing

/-! ## Clips -/

structure ScriptSentence where
  sequence : Nat
  text : List Char
deriving DecidableEq

/-- mirrors script_recording.py:73-92 -/
structure ScriptRecordedClip where
  sentence : ScriptSentence
  sourceStartMs : Nat
  sourceEndMs : Nat
  durationMs : Nat
  start_lt : sourceStartMs < sourceEndMs
  end_le : sourceEndMs ≤ maxMaterialDurationMs
  duration : durationMs = sourceEndMs - sourceStartMs
deriving DecidableEq

/-- What may be raised on the way. -/
inductive Raised
  | valueError
  | indexError
  | zeroDivisionError
  | scriptRecordingRejected
deriving DecidableEq

def recordedClip (sentence : ScriptSentence) (sourceStartMs sourceEndMs : Nat) :
    Except Raised ScriptRecordedClip :=
  if h : sourceStartMs < sourceEndMs ∧ sourceEndMs ≤ maxMaterialDurationMs then
    .ok
      { sentence, sourceStartMs, sourceEndMs
        durationMs := sourceEndMs - sourceStartMs
        start_lt := h.1
        end_le := h.2
        duration := rfl }
  else .error .scriptRecordingRejected

/-- The clips lie one behind the other, inside the recording.
mirrors script_recording.py:125-132 -/
def acceptsRanges (recordingDurationMs : Nat) : Nat → List ScriptRecordedClip → Bool
  | _, [] => true
  | previousEnd, clip :: clips =>
    ¬(clip.sourceStartMs < previousEnd ∨ clip.sourceEndMs > recordingDurationMs) ∧
      acceptsRanges recordingDurationMs clip.sourceEndMs clips

/-! ## The cut -/

/-- `segment_cumulative_durations`. -/
def cumulativeDurations : Nat → List (Nat × Nat) → List Nat
  | _, [] => []
  | running, (start, stop) :: segments =>
    (running + (stop - start)) :: cumulativeDurations (running + (stop - start)) segments

section

variable {K : Type} [LinearOrder K]
  -- Of a duration to `total_speech_duration * sentence_cumulative_characters / total_characters`.
  (distance : (duration totalSpeech characters totalCharacters : Nat) → K)

/-- The segment that a sentence ends with, when `remaining` more sentences follow.
mirrors script_recording.py:567-579 -/
def groupEnd (durations : List Nat) (totalSpeech totalCharacters segments remaining groupStartIndex
    characters : Nat) : Except Raised Nat :=
  if remaining = 0 then .ok (segments - 1)
  else if totalCharacters = 0 then .error .zeroDivisionError
  else
    match (List.range' groupStartIndex (segments - remaining - groupStartIndex)).argmin fun index =>
        toLex (distance (durations.getD index 0) totalSpeech characters totalCharacters, index) with
    | none => .error .valueError
    | some index => .ok index

def segmentAt (segments : List (Nat × Nat)) (index : Nat) : Except Raised (Nat × Nat) :=
  match segments[index]? with
  | none => .error .indexError
  | some segment => .ok segment

/-- The loop; `zip` is strict.
mirrors script_recording.py:562-591 -/
def clipsFrom (durations : List Nat) (totalSpeech totalCharacters : Nat)
    (segments : List (Nat × Nat)) :
    List ScriptSentence → List (List Char) → Nat → Nat → Except Raised (List ScriptRecordedClip)
  | [], [], _, _ => .ok []
  | sentence :: sentences, normalized :: normalizedSentences, groupStartIndex, characters => do
    let groupEndIndex ← groupEnd distance durations totalSpeech totalCharacters segments.length
      sentences.length groupStartIndex (characters + normalized.length)
    let first ← segmentAt segments groupStartIndex
    let last ← segmentAt segments groupEndIndex
    let clip ← recordedClip sentence first.1 last.2
    let clips ← clipsFrom durations totalSpeech totalCharacters segments sentences
      normalizedSentences (groupEndIndex + 1) (characters + normalized.length)
    .ok (clip :: clips)
  | _, _, _, _ => .error .valueError

/-- mirrors script_recording.py:548-591 -/
def clipsFromSegments (sentences : List ScriptSentence) (normalizedSentences : List (List Char))
    (segments : List (Nat × Nat)) : Except Raised (List ScriptRecordedClip) :=
  let durations := cumulativeDurations 0 segments
  let totalSpeech := (segments.map fun s => s.2 - s.1).sum
  let totalCharacters := (normalizedSentences.map List.length).sum
  clipsFrom distance durations totalSpeech totalCharacters segments sentences normalizedSentences 0 0

end

/-! ## Groups -/

/-- The clip reaches from the first segment of the group to its last. -/
def Hull (clip : ScriptRecordedClip) (group : List (Nat × Nat)) : Prop :=
  ∃ first last, group.head? = some first ∧ group.getLast? = some last ∧
    clip.sourceStartMs = first.1 ∧ clip.sourceEndMs = last.2

/-- Where a group of segments lies that is followed by others. -/
theorem validateSegments_append {durationMs previousEnd : Nat} {group rest : List (Nat × Nat)}
    {first last : Nat × Nat} (h : validateSegments (some durationMs) previousEnd (group ++ rest) = true)
    (hfirst : group.head? = some first) (hlast : group.getLast? = some last) :
    previousEnd ≤ first.1 ∧ first.1 < last.2 ∧ last.2 ≤ durationMs ∧
      validateSegments (some durationMs) last.2 rest = true := by
  induction group generalizing previousEnd first with
  | nil => cases hfirst
  | cons segment group ih =>
    cases hfirst
    rw [List.cons_append, validateSegments] at h
    simp only [Option.all_some, decide_eq_true_eq] at h
    obtain ⟨hprevious, hstart, hstop, hrest⟩ := h
    cases group with
    | nil =>
      cases hlast
      exact ⟨hprevious, hstart, hstop, hrest⟩
    | cons next group =>
      rw [List.getLast?_cons_cons] at hlast
      obtain ⟨hnext, hlt, hle, hvalid⟩ := ih hrest rfl hlast
      exact ⟨hprevious, by omega, hle, hvalid⟩

theorem Hull.head_eq {clips : List ScriptRecordedClip} {groups : List (List (Nat × Nat))}
    (h : List.Forall₂ Hull clips groups) :
    clips.head?.map (·.sourceStartMs) = groups.flatten.head?.map (·.1) := by
  cases h with
  | nil => rfl
  | cons hhull _ =>
    obtain ⟨first, last, hfirst, -, hstart, -⟩ := hhull
    simp [List.head?_append, hfirst, hstart]

theorem Hull.last_eq {clips : List ScriptRecordedClip} {groups : List (List (Nat × Nat))}
    (h : List.Forall₂ Hull clips groups) :
    clips.getLast?.map (·.sourceEndMs) = groups.flatten.getLast?.map (·.2) := by
  induction h with
  | nil => rfl
  | @cons clip group clips groups hhull _ ih =>
    obtain ⟨first, last, -, hlast, -, hend⟩ := hhull
    rw [List.getLast?_cons, List.flatten_cons, List.getLast?_append, hlast]
    cases hclips : clips.getLast? with
    | none =>
      rw [hclips, Option.map_none, eq_comm, Option.map_eq_none_iff] at ih
      simp [ih, hend]
    | some c =>
      rw [hclips, Option.map_some, eq_comm, Option.map_eq_some_iff] at ih
      obtain ⟨segment, hsegment, hsame⟩ := ih
      simp [hsegment, hsame]

/-- Clips with accepted ranges do not overlap. -/
theorem acceptsRanges_pairwise {durationMs previousEnd : Nat} {clips : List ScriptRecordedClip}
    (h : acceptsRanges durationMs previousEnd clips = true) :
    (∀ c ∈ clips, previousEnd ≤ c.sourceStartMs) ∧
      clips.Pairwise fun a b => a.sourceEndMs ≤ b.sourceStartMs := by
  induction clips generalizing previousEnd with
  | nil => exact ⟨nofun, .nil⟩
  | cons clip clips ih =>
    simp only [acceptsRanges, decide_eq_true_eq, not_or, not_lt] at h
    obtain ⟨⟨hprevious, -⟩, hrest⟩ := h
    obtain ⟨hlater, hpairwise⟩ := ih hrest
    have hlt := clip.start_lt
    refine ⟨fun c hc => ?_, .cons hlater hpairwise⟩
    rcases List.mem_cons.1 hc with rfl | hc
    · exact hprevious
    · have := hlater c hc
      omega

/-- The segments from one index to another. -/
theorem group_ends {segments : List (Nat × Nat)} {start stop : Nat} (h : start ≤ stop)
    (hstop : stop < segments.length) {group : List (Nat × Nat)}
    (hgroup : group = (segments.drop start).take (stop + 1 - start)) :
    group.head? = segments[start]? ∧ group.getLast? = segments[stop]? ∧
      segments.drop start = group ++ segments.drop (stop + 1) := by
  subst hgroup
  refine ⟨?_, ?_, ?_⟩
  · rw [List.head?_take, if_neg (by omega), List.head?_drop]
  · rw [List.getLast?_take, if_neg (by omega), List.getElem?_drop,
      show start + (stop + 1 - start - 1) = stop by omega, List.getElem?_eq_getElem hstop]
    rfl
  · have hdrop : segments.drop (stop + 1) = (segments.drop start).drop (stop + 1 - start) := by
      rw [List.drop_drop]
      congr 1
      omega
    rw [hdrop, List.take_append_drop]

theorem segmentAt_eq {segments : List (Nat × Nat)} {index : Nat} (h : index < segments.length) :
    segmentAt segments index = .ok segments[index] := by
  rw [segmentAt, List.getElem?_eq_getElem h]

/-! ## The loop -/

section

variable {K : Type} [LinearOrder K]
  {distance : (duration totalSpeech characters totalCharacters : Nat) → K}

/-- A sentence ends where every later one still gets a segment. -/
theorem groupEnd_spec {totalCharacters : Nat} (hcharacters : totalCharacters ≠ 0)
    {segments remaining start : Nat} (hroom : start + remaining + 1 ≤ segments)
    (durations : List Nat) (totalSpeech characters : Nat) :
    ∃ stop, groupEnd distance durations totalSpeech totalCharacters segments remaining start
        characters = .ok stop ∧
      start ≤ stop ∧ stop + remaining + 1 ≤ segments ∧ (remaining = 0 → stop + 1 = segments) := by
  unfold groupEnd
  by_cases hlast : remaining = 0
  · refine ⟨segments - 1, if_pos hlast, ?_, ?_, ?_⟩ <;> omega
  · rw [if_neg hlast, if_neg hcharacters]
    cases hmin : (List.range' start (segments - remaining - start)).argmin fun index =>
        toLex (distance (durations.getD index 0) totalSpeech characters totalCharacters, index) with
    | none =>
      rw [List.argmin_eq_none, List.range'_eq_nil_iff] at hmin
      omega
    | some stop =>
      have hmem := List.mem_range'_1.1 (List.argmin_mem hmin)
      refine ⟨stop, rfl, ?_, ?_, fun h => absurd h hlast⟩ <;> omega

/-- From a segment on, the sentences that are left get clips. -/
theorem clipsFrom_spec {durationMs : Nat} (hduration : durationMs ≤ maxMaterialDurationMs)
    {totalCharacters : Nat} (hcharacters : totalCharacters ≠ 0) (durations : List Nat)
    (totalSpeech : Nat) {segments : List (Nat × Nat)} {sentences : List ScriptSentence}
    {normalizedSentences : List (List Char)}
    (hnormalized : normalizedSentences.length = sentences.length) (hne : sentences ≠ [])
    {start previousEnd : Nat} (hroom : start + sentences.length ≤ segments.length)
    (hsegments : validateSegments (some durationMs) previousEnd (segments.drop start) = true)
    (characters : Nat) :
    ∃ clips groups,
      clipsFrom distance durations totalSpeech totalCharacters segments sentences
        normalizedSentences start characters = .ok clips ∧
      groups.flatten = segments.drop start ∧ List.Forall₂ Hull clips groups ∧
      clips.map (·.sentence) = sentences ∧ acceptsRanges durationMs previousEnd clips = true := by
  induction sentences generalizing normalizedSentences start previousEnd characters with
  | nil => exact absurd rfl hne
  | cons sentence sentences ih =>
    cases normalizedSentences with
    | nil => cases hnormalized
    | cons normalized normalizedSentences =>
      rw [List.length_cons] at hroom
      obtain ⟨stop, hstop, hle, hleft, hall⟩ := @groupEnd_spec _ _ distance _ hcharacters
        segments.length sentences.length start (by omega)
        durations totalSpeech (characters + normalized.length)
      have hin : stop < segments.length := by omega
      obtain ⟨hfirst, hlast, hsplit⟩ := group_ends hle hin rfl
      rw [List.getElem?_eq_getElem (by omega)] at hfirst hlast
      rw [hsplit] at hsegments
      obtain ⟨hprevious, hlt, hend, hrest⟩ := validateSegments_append hsegments hfirst hlast
      let clip : ScriptRecordedClip :=
        { sentence
          sourceStartMs := segments[start].1
          sourceEndMs := segments[stop].2
          durationMs := segments[stop].2 - segments[start].1
          start_lt := hlt
          end_le := hend.trans hduration
          duration := rfl }
      have hclip : recordedClip sentence segments[start].1 segments[stop].2 = .ok clip :=
        dif_pos ⟨hlt, hend.trans hduration⟩
      have hhull : Hull clip ((segments.drop start).take (stop + 1 - start)) :=
        ⟨_, _, hfirst, hlast, rfl, rfl⟩
      have haccepts (clips : List ScriptRecordedClip)
          (h : acceptsRanges durationMs segments[stop].2 clips = true) :
          acceptsRanges durationMs previousEnd (clip :: clips) = true := by
        simp only [acceptsRanges, decide_eq_true_eq, not_or, not_lt]
        exact ⟨⟨hprevious, hend⟩, h⟩
      rw [clipsFrom, hstop]
      simp only [segmentAt_eq (show start < segments.length by omega), segmentAt_eq hin, hclip,
        bind, Except.bind]
      cases sentences with
      | nil =>
        have hnil : normalizedSentences = [] := List.length_eq_zero_iff.1 (Nat.succ.inj hnormalized)
        subst hnil
        refine ⟨[clip], [(segments.drop start).take (stop + 1 - start)], rfl, ?_,
          .cons hhull .nil, rfl, haccepts [] rfl⟩
        have hnone : segments.drop (stop + 1) = [] := List.drop_eq_nil_of_le (hall rfl).ge
        rw [hnone] at hsplit
        exact hsplit.symm
      | cons next sentences =>
        obtain ⟨clips, groups, hclips, hflatten, hhulls, hsentences, hranges⟩ :=
          @ih _ (Nat.succ.inj hnormalized) (List.cons_ne_nil _ _) (stop + 1) _ (by omega) hrest
            (characters + normalized.length)
        refine ⟨clip :: clips, (segments.drop start).take (stop + 1 - start) :: groups, ?_, ?_,
          .cons hhull hhulls, ?_, haccepts clips hranges⟩
        · rw [hclips]
        · rw [List.flatten_cons, hflatten, ← hsplit]
        · rw [List.map_cons, hsentences]

/-- **The clips of a script**: when there are as many segments as sentences, nothing is raised, and
the clips are the hulls of groups of neighbouring segments, one group a sentence, that make up all
of them. The ranges of these clips are accepted. -/
theorem clipsFromSegments_spec {durationMs : Nat} (hduration : durationMs ≤ maxMaterialDurationMs)
    {segments : List (Nat × Nat)}
    (hsegments : validateSegments (some durationMs) 0 segments = true)
    {sentences : List ScriptSentence} {normalizedSentences : List (List Char)}
    (hnormalized : normalizedSentences.length = sentences.length)
    (hspoken : ∀ text ∈ normalizedSentences, text ≠ []) (hne : sentences ≠ [])
    (henough : sentences.length ≤ segments.length) :
    ∃ clips groups,
      clipsFromSegments distance sentences normalizedSentences segments = .ok clips ∧
      clips.map (·.sentence) = sentences ∧
      groups.flatten = segments ∧ List.Forall₂ Hull clips groups ∧
      clips.head?.map (·.sourceStartMs) = segments.head?.map (·.1) ∧
      clips.getLast?.map (·.sourceEndMs) = segments.getLast?.map (·.2) ∧
      clips.Pairwise (fun a b => a.sourceEndMs ≤ b.sourceStartMs) ∧
      acceptsRanges durationMs 0 clips = true := by
  have hcharacters : (normalizedSentences.map List.length).sum ≠ 0 := by
    obtain ⟨text, htext⟩ : ∃ text, text ∈ normalizedSentences :=
      List.exists_mem_of_length_pos (by rw [hnormalized]; exact List.length_pos_iff.2 hne)
    intro hzero
    have hnone := List.sum_eq_zero_iff_forall_eq_nat.1 hzero _ (List.mem_map_of_mem htext)
    exact hspoken text htext (List.length_eq_zero_iff.1 hnone)
  obtain ⟨clips, groups, hclips, hflatten, hhulls, hsentences, hranges⟩ :=
    @clipsFrom_spec _ _ distance _ hduration _ hcharacters (cumulativeDurations 0 segments)
      (segments.map fun s => s.2 - s.1).sum _ _ _ hnormalized hne 0 _ (by omega) hsegments 0
  rw [List.drop_zero] at hflatten
  refine ⟨clips, groups, hclips, hsentences, hflatten, hhulls, ?_, ?_,
    (acceptsRanges_pairwise hranges).2, hranges⟩
  · rw [Hull.head_eq hhulls, hflatten]
  · rw [Hull.last_eq hhulls, hflatten]

end

namespace TwoSentences

/-- Scaled by the number of characters, the distance needs no division. -/
def scaled (duration totalSpeech characters totalCharacters : Nat) : Nat :=
  let target := totalSpeech * characters
  max (duration * totalCharacters) target - min (duration * totalCharacters) target

/-- Two sentences over three segments: the long one gets two of them. -/
theorem clips_found : ∃ clips groups,
    clipsFromSegments scaled [⟨1, "hello there".toList⟩, ⟨2, "you".toList⟩]
      ["hellothere".toList, "you".toList] [(0, 400), (500, 900), (1000, 1300)] = .ok clips ∧
      clips.map (·.sourceEndMs) = [900, 1300] ∧ groups.flatten.length = 3 ∧
      List.Forall₂ Hull clips groups := by
  obtain ⟨clips, groups, hclips, -, hflatten, hhulls, -⟩ :=
    @clipsFromSegments_spec _ _ scaled 1500 (by decide)
      [(0, 400), (500, 900), (1000, 1300)] (by decide)
      [⟨1, "hello there".toList⟩, ⟨2, "you".toList⟩]
      ["hellothere".toList, "you".toList] rfl (by decide) (by decide) (by decide)
  refine ⟨clips, groups, hclips, ?_, by rw [hflatten]; rfl, hhulls⟩
  have hends : (clipsFromSegments scaled [⟨1, "hello there".toList⟩, ⟨2, "you".toList⟩]
      ["hellothere".toList, "you".toList] [(0, 400), (500, 900), (1000, 1300)]).toOption.map
        (·.map (·.sourceEndMs)) = some [900, 1300] := by decide +kernel
  rw [hclips] at hends
  exact Option.some.inj hends

end TwoSentences

end AutomationTool.Executor.ScriptRecording
