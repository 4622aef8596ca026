import AutomationTool.Core.Failing
import AutomationTool.Executor.SpeechEvidence

/-!
# The sound sent to be transcribed

The recording is cut every three minutes; what meets a segment is sent, one window after the
other, and the rest is not.

* `batches_spec`: the windows lie apart, cover every segment, and none is refused.
* `speech_found`: what the segments are and what is sent of them.
-/
namespace AutomationTool.Executor.SpeechEvidence

open Editing (maxSpeechSegments)

def pcmBytesPerSample : Nat := 2
def pcmBytesPerMillisecond : Nat := 32
def wavHeaderBytes : Nat := 44
def maxAsrBatchDurationMs : Nat := 180000
def maxAsrWavBytes : Nat := 6 * 1024 * 1024

/-- How long so many bytes of sound last, rounded up. -/
def audioTime (bytes : Nat) : Nat := (bytes + (pcmBytesPerMillisecond - 1)) / pcmBytesPerMillisecond

/-- The sound after the header of the file.
mirrors material_speech_pipeline.py:59-95 -/
structure SpeechAudioBatch where
  payload : List UInt8
  durationMs : Nat
  small : wavHeaderBytes + payload.length ≤ maxAsrWavBytes
  short : 1 ≤ durationMs ∧ durationMs ≤ maxAsrBatchDurationMs
  framed : 0 < payload.length ∧ payload.length % pcmBytesPerSample = 0
  timed : audioTime payload.length = durationMs

def SpeechAudioBatch.ofPayload (payload : List UInt8) (durationMs : Nat) :
    Option SpeechAudioBatch :=
  if h : wavHeaderBytes + payload.length ≤ maxAsrWavBytes ∧
      (1 ≤ durationMs ∧ durationMs ≤ maxAsrBatchDurationMs) ∧
      (0 < payload.length ∧ payload.length % pcmBytesPerSample = 0) ∧
      audioTime payload.length = durationMs then
    some ⟨payload, durationMs, h.1, h.2.1, h.2.2.1, h.2.2.2⟩
  else none

/-- The windows that meet a segment. -/
def windows (totalMs : Nat) (segments : List (Nat × Nat)) : List (Nat × Nat) :=
  ((List.range ((totalMs + (maxAsrBatchDurationMs - 1)) / maxAsrBatchDurationMs)).map fun k =>
    (k * maxAsrBatchDurationMs,
      min totalMs (k * maxAsrBatchDurationMs + maxAsrBatchDurationMs))).filter fun window =>
    segments.any fun segment => segment.1 < window.2 && segment.2 > window.1

/-- The bytes of a window. -/
def readWindow (pcm : List UInt8) (window : Nat × Nat) : List UInt8 :=
  let startByte := window.1 * pcmBytesPerMillisecond
  let endByte := min pcm.length (window.2 * pcmBytesPerMillisecond)
  (pcm.drop startByte).take (endByte - startByte)

/-- What is sent of a recording whose file stays as it was; `none` when that is refused.
mirrors material_speech_pipeline.py:687-732 -/
def speechAudioBatches (pcm : List UInt8) (durationMs : Nat) (segments : List (Nat × Nat)) :
    Option (List SpeechAudioBatch) :=
  let found := windows (min durationMs (audioTime pcm.length)) segments
  if found.isEmpty then none
  else found.mapM fun window =>
    SpeechAudioBatch.ofPayload (readWindow pcm window) (audioTime (readWindow pcm window).length)

/-- The batches hold windows of the recording that lie apart and cover every segment. -/
structure Batched (pcm : List UInt8) (segments found : List (Nat × Nat))
    (batches : List SpeechAudioBatch) : Prop where
  ordered : found.Pairwise fun earlier later => earlier.2 ≤ later.1
  nonempty : ∀ w ∈ found, w.1 < w.2 ∧ w.2 ≤ w.1 + maxAsrBatchDurationMs
  covers : ∀ s ∈ segments, ∀ t, s.1 ≤ t → t < s.2 → ∃ w ∈ found, w.1 ≤ t ∧ t < w.2
  payloads : batches.map SpeechAudioBatch.payload = found.map (readWindow pcm)

theorem mem_windows {totalMs : Nat} {segments : List (Nat × Nat)} {w : Nat × Nat} :
    w ∈ windows totalMs segments ↔
      (∃ k, k * maxAsrBatchDurationMs < totalMs ∧ w = (k * maxAsrBatchDurationMs,
        min totalMs (k * maxAsrBatchDurationMs + maxAsrBatchDurationMs))) ∧
      ∃ s ∈ segments, s.1 < w.2 ∧ w.1 < s.2 := by
  simp only [windows, List.mem_filter, List.mem_map, List.mem_range, List.any_eq_true,
    Bool.and_eq_true, decide_eq_true_eq, gt_iff_lt]
  refine and_congr_left fun _ => exists_congr fun k => ?_
  rw [Nat.lt_div_iff_mul_lt (by simp [maxAsrBatchDurationMs]), eq_comm (a := w)]
  refine and_congr_left fun _ => ?_
  simp only [maxAsrBatchDurationMs]
  omega

theorem windows_ordered (totalMs : Nat) (segments : List (Nat × Nat)) :
    (windows totalMs segments).Pairwise fun earlier later => earlier.2 ≤ later.1 := by
  refine List.Pairwise.filter _ (List.pairwise_map.2 ?_)
  refine List.pairwise_lt_range.imp fun hlt => ?_
  simp only [maxAsrBatchDurationMs]
  omega

theorem windows_bounded {totalMs : Nat} {segments : List (Nat × Nat)} {w : Nat × Nat}
    (h : w ∈ windows totalMs segments) :
    w.1 < w.2 ∧ w.2 ≤ totalMs ∧ w.2 ≤ w.1 + maxAsrBatchDurationMs := by
  obtain ⟨⟨k, hk, rfl⟩, -⟩ := mem_windows.1 h
  simp only [maxAsrBatchDurationMs] at *
  omega

theorem windows_cover {totalMs t : Nat} {segments : List (Nat × Nat)} {s : Nat × Nat}
    (hs : s ∈ segments) (hend : s.2 ≤ totalMs) (hfrom : s.1 ≤ t) (huntil : t < s.2) :
    ∃ w ∈ windows totalMs segments, w.1 ≤ t ∧ t < w.2 := by
  have hdiv := Nat.div_add_mod t maxAsrBatchDurationMs
  have hmod := Nat.mod_lt t (show 0 < maxAsrBatchDurationMs by simp [maxAsrBatchDurationMs])
  rw [Nat.mul_comm] at hdiv
  refine ⟨_, mem_windows.2 ⟨⟨t / maxAsrBatchDurationMs, by omega, rfl⟩, s, hs, ?_, ?_⟩, ?_, ?_⟩
  all_goals
    simp only
    omega

/-- Nothing in a window of the recording is refused. -/
theorem ofPayload_window {pcm : List UInt8} {totalMs : Nat} {segments : List (Nat × Nat)}
    {w : Nat × Nat} (heven : pcm.length % pcmBytesPerSample = 0)
    (htotal : totalMs ≤ audioTime pcm.length) (h : w ∈ windows totalMs segments) :
    ∃ b, SpeechAudioBatch.ofPayload (readWindow pcm w) (audioTime (readWindow pcm w).length) =
      some b ∧ b.payload = readWindow pcm w := by
  obtain ⟨hlt, hend, hshort⟩ := windows_bounded h
  have hlength : (readWindow pcm w).length =
      min pcm.length (w.2 * pcmBytesPerMillisecond) - w.1 * pcmBytesPerMillisecond := by
    simp only [readWindow, List.length_take, List.length_drop]
    omega
  have hallowed : wavHeaderBytes + (readWindow pcm w).length ≤ maxAsrWavBytes ∧
      (1 ≤ audioTime (readWindow pcm w).length ∧
        audioTime (readWindow pcm w).length ≤ maxAsrBatchDurationMs) ∧
      (0 < (readWindow pcm w).length ∧ (readWindow pcm w).length % pcmBytesPerSample = 0) ∧
      audioTime (readWindow pcm w).length = audioTime (readWindow pcm w).length := by
    rw [hlength]
    simp only [wavHeaderBytes, maxAsrWavBytes, audioTime, pcmBytesPerMillisecond, pcmBytesPerSample,
      maxAsrBatchDurationMs] at *
    have hstart : w.1 * 32 < pcm.length := by omega
    refine ⟨by omega, ⟨by omega, by omega⟩, ⟨by omega, by omega⟩, trivial⟩
  exact ⟨_, dif_pos hallowed, rfl⟩

theorem batches_spec {pcm : List UInt8} {durationMs : Nat} {segments : List (Nat × Nat)}
    (heven : pcm.length % pcmBytesPerSample = 0)
    (hinside : ∀ s ∈ segments, s.1 < s.2 ∧ s.2 ≤ min durationMs (audioTime pcm.length))
    (hsome : segments ≠ []) :
    ∃ found batches, speechAudioBatches pcm durationMs segments = some batches ∧
      Batched pcm segments found batches := by
  have hfits : ∀ w ∈ windows (min durationMs (audioTime pcm.length)) segments, ∃ b,
      SpeechAudioBatch.ofPayload (readWindow pcm w) (audioTime (readWindow pcm w).length) =
        some b ∧ b.payload = readWindow pcm w := by
    intro w hw
    exact ofPayload_window heven (min_le_right _ _) hw
  obtain ⟨batches, hbatches⟩ := exists_forall₂ hfits
  refine ⟨windows (min durationMs (audioTime pcm.length)) segments, batches, ?_,
    windows_ordered _ _, fun w hw => ?_, fun s hs t hfrom huntil => ?_, ?_⟩
  · obtain ⟨s, hs⟩ := List.exists_mem_of_ne_nil segments hsome
    obtain ⟨w, hw, -⟩ := windows_cover hs (hinside s hs).2 (le_refl _) (hinside s hs).1
    have hfound : windows (min durationMs (audioTime pcm.length)) segments ≠ [] :=
      List.ne_nil_of_mem hw
    rw [speechAudioBatches, if_neg (by rwa [List.isEmpty_iff])]
    exact mapM_eq_some.2 (hbatches.imp fun _ _ hb => hb.1)
  · obtain ⟨hlt, -, hshort⟩ := windows_bounded hw
    exact ⟨hlt, hshort⟩
  · exact windows_cover hs (hinside s hs).2 hfrom huntil
  · exact map_eq_of_forall₂ hbatches fun _ _ hb => hb.2

/-- The segments are what the certain candidates make of the chunks, and every batch of them is
sent. -/
theorem speech_found (probabilities : List ℚ) :
    (∀ durationMs, ∃ segments total,
      Segmented (SpeechAt probabilities) durationMs probabilities.length segments total ∧
        aggregateProbabilityEvidence probabilities durationMs =
          if segments.length > maxSpeechSegments then none else some (segments, total)) ∧
    ∀ (pcm : List UInt8) (materialMs : Nat) (segments : List (Nat × Nat)) (total : Nat),
      pcm.length % pcmBytesPerSample = 0 →
      aggregateProbabilityEvidence probabilities (min materialMs (audioTime pcm.length)) =
        some (segments, total) →
      segments ≠ [] →
      ∃ found batches, speechAudioBatches pcm materialMs segments = some batches ∧
        Batched pcm segments found batches := by
  refine ⟨evidence_spec probabilities, fun pcm materialMs segments total heven hfound hsome => ?_⟩
  obtain ⟨segments', total', hsegmented, heq⟩ :=
    evidence_spec probabilities (min materialMs (audioTime pcm.length))
  rw [hfound] at heq
  split at heq
  · cases heq
  · cases heq
    exact batches_spec heven hsegmented.inside hsome

namespace CutRun

/-- Two silent chunks, then eight of speech. -/
def probabilities : List ℚ := 0 :: 0 :: List.replicate 8 1

theorem found_in_padding : aggregateProbabilityEvidence probabilities 50 = some ([(0, 50)], 0) := by
  decide +kernel

/-- A recording that ends in the padding before its first run: no run lies in the segment. -/
theorem no_run_inside :
    ¬∀ (probabilities : List ℚ) (durationMs : Nat) (segments : List (Nat × Nat)) (total : Nat),
      durationMs ≤ probabilities.length * vadChunkMilliseconds →
      aggregateProbabilityEvidence probabilities durationMs = some (segments, total) →
      ∀ s ∈ segments, ∃ a, Run (SpeechAt probabilities) a (a + minSpeechChunks) ∧
        s.1 ≤ a * vadChunkMilliseconds ∧ (a + minSpeechChunks) * vadChunkMilliseconds ≤ s.2 := by
  intro h
  obtain ⟨a, -, -, hend⟩ := h probabilities 50 [(0, 50)] 0
    (by simp [probabilities, vadChunkMilliseconds]) found_in_padding (0, 50) (by simp)
  simp only [minSpeechChunks, vadChunkMilliseconds] at hend
  omega

/-- The same chunks heard in full, and sent in one window. -/
theorem heard_in_full :
    aggregateProbabilityEvidence probabilities 320 = some ([(0, 320)], 256) ∧
      ∃ found batches,
        speechAudioBatches (List.replicate 10240 0) 320 [(0, 320)] = some batches ∧
          Batched (List.replicate 10240 0) [(0, 320)] found batches := by
  have hfound : aggregateProbabilityEvidence probabilities 320 = some ([(0, 320)], 256) := by
    decide +kernel
  refine ⟨hfound, ?_⟩
  have hlength : (List.replicate 10240 (0 : UInt8)).length = 10240 := List.length_replicate
  exact (speech_found probabilities).2 (List.replicate 10240 0) 320 [(0, 320)] 256
    (by rw [hlength]; rfl) (by rw [hlength]; exact hfound) (by simp)

end CutRun

end AutomationTool.Executor.SpeechEvidence
