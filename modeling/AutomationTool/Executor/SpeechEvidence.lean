import AutomationTool.Core.Intervals
import AutomationTool.Editing.Materials

/-!
# Where somebody speaks

A voice detector gives a probability for every chunk of 32 ms. Eight speech chunks in a row make
a candidate certain; it goes on until four chunks in a row are silent. Certain candidates are
padded on both sides, cut to the recording, and joined where they touch.

* `Candidates`: what the candidates are, said of the chunks alone.
* `evidence_spec`: the loop finds them, joins their intervals and adds up the time spoken.
-/
namespace AutomationTool.Executor.SpeechEvidence

open Editing (maxSpeechSegments)

/-! ## The loop -/

def vadChunkMilliseconds : Nat := 32
def minSpeechChunks : Nat := 8
def minSilenceChunks : Nat := 4
def speechPaddingMs : Nat := 64

/-- The variables of the loop; the last segment comes first. -/
structure Evidence where
  segments : List (Nat × Nat) := []
  candidateStart : Option Nat := none
  candidatePositiveDurationMs : Nat := 0
  confirmedPositiveDurationMs : Nat := 0
  consecutiveSpeechChunks : Nat := 0
  confirmed : Bool := false
  silenceChunks : Nat := 0

/-- mirrors material_speech_pipeline.py:658-673 -/
def appendSegment (durationMs startMs endMs : Nat) (segments : List (Nat × Nat)) : List (Nat × Nat) :=
  let boundedEnd := min durationMs endMs
  if boundedEnd ≤ startMs then segments else Intervals.add (startMs, boundedEnd) segments

/-- What of a chunk lies in the recording. -/
def chunkTime (durationMs index : Nat) : Nat :=
  min durationMs (index * vadChunkMilliseconds + vadChunkMilliseconds) - index * vadChunkMilliseconds

/-- The candidate that began at `start` and ended before `firstSilence` becomes a segment. -/
def close (durationMs start firstSilence : Nat) (s : Evidence) : Evidence where
  segments := appendSegment durationMs (start * vadChunkMilliseconds - speechPaddingMs)
    (firstSilence * vadChunkMilliseconds + speechPaddingMs) s.segments
  confirmedPositiveDurationMs := s.confirmedPositiveDurationMs + s.candidatePositiveDurationMs

/-- mirrors material_speech_pipeline.py:602-643 -/
def step (durationMs index : Nat) (speech : Bool) (s : Evidence) : Evidence :=
  if speech then
    { s with
      candidateStart := some (s.candidateStart.getD index)
      candidatePositiveDurationMs := s.candidatePositiveDurationMs + chunkTime durationMs index
      consecutiveSpeechChunks := s.consecutiveSpeechChunks + 1
      confirmed := s.confirmed || minSpeechChunks ≤ s.consecutiveSpeechChunks + 1
      silenceChunks := 0 }
  else
    match s.candidateStart with
    | none => s
    | some start =>
      if s.confirmed = false then
        { segments := s.segments, confirmedPositiveDurationMs := s.confirmedPositiveDurationMs }
      else if s.silenceChunks + 1 < minSilenceChunks then
        { s with consecutiveSpeechChunks := 0, silenceChunks := s.silenceChunks + 1 }
      else close durationMs start (index + 1 - (s.silenceChunks + 1)) s

def evidenceFrom (durationMs : Nat) : Nat → List ℚ → Evidence → Evidence
  | _, [], s => s
  | index, probability :: probabilities, s =>
    evidenceFrom durationMs (index + 1) probabilities
      (step durationMs index (decide (probability ≥ 1 / 2)) s)

/-- What is left open at the end. -/
def finish (durationMs chunks : Nat) (s : Evidence) : Evidence :=
  match s.candidateStart with
  | none => s
  | some start =>
    if s.confirmed then close durationMs start (chunks - s.silenceChunks) s else s

/-- The segments in order, with the time spoken; `none` when there are too many.
mirrors material_speech_pipeline.py:587-655 -/
def aggregateProbabilityEvidence (probabilities : List ℚ) (durationMs : Nat) :
    Option (List (Nat × Nat) × Nat) :=
  let s := finish durationMs probabilities.length (evidenceFrom durationMs 0 probabilities {})
  if s.segments.length > maxSpeechSegments then none
  else some (s.segments.reverse, s.confirmedPositiveDurationMs)

/-! ## Candidates -/

section

variable (speech : Nat → Prop)

/-- The chunks from `a` to before `b` are speech. -/
def Run (a b : Nat) : Prop := ∀ i, a ≤ i → i < b → speech i

/-- The chunks from `a` to before `b` are silent. -/
def Silent (a b : Nat) : Prop := ∀ i, a ≤ i → i < b → ¬speech i

/-- A certain candidate: it begins with speech chunks that make it certain, and no silence in it is
long enough to end it. -/
structure Candidate (a b : Nat) : Prop where
  certain : Run speech a (a + minSpeechChunks)
  long : a + minSpeechChunks ≤ b
  last : speech (b - 1)
  unbroken : ∀ p, a ≤ p → p + minSilenceChunks ≤ b → ¬Silent speech p (p + minSilenceChunks)

/-- The certain candidates among the first `n` chunks, the last one first. -/
structure Candidates (n : Nat) (found : List (Nat × Nat)) : Prop where
  candidate : ∀ c ∈ found, Candidate speech c.1 c.2 ∧ c.2 ≤ n
  closed : ∀ c ∈ found, Silent speech c.2 (min n (c.2 + minSilenceChunks))
  apart : found.Pairwise fun later earlier => earlier.2 + minSilenceChunks ≤ later.1
  runs : ∀ p, Run speech p (p + minSpeechChunks) → p + minSpeechChunks ≤ n →
    ∃ c ∈ found, c.1 ≤ p ∧ p + minSpeechChunks ≤ c.2

/-- What of a candidate is kept: its padded time, cut to the recording. -/
def cut (durationMs : Nat) (c : Nat × Nat) : Option (Nat × Nat) :=
  let start := c.1 * vadChunkMilliseconds - speechPaddingMs
  let stop := min durationMs (c.2 * vadChunkMilliseconds + speechPaddingMs)
  if stop ≤ start then none else some (start, stop)

open Classical in
/-- The time of the chunks that meet a condition. -/
noncomputable def spoken (durationMs n : Nat) (P : Nat → Prop) : Nat :=
  ∑ i ∈ Finset.range n, if P i then chunkTime durationMs i else 0

/-- The chunk is one of the candidates'. -/
def Belongs (found : List (Nat × Nat)) (i : Nat) : Prop := ∃ c ∈ found, c.1 ≤ i ∧ i < c.2

/-! ## What the loop keeps -/

/-- The candidate that is open after `n` chunks, or none. -/
def Opened (durationMs n : Nat) (s : Evidence) (found : List (Nat × Nat)) : Prop :=
  match s.candidateStart with
  | none =>
    s.confirmed = false ∧ s.consecutiveSpeechChunks = 0 ∧ s.candidatePositiveDurationMs = 0 ∧
      (n = 0 ∨ ¬speech (n - 1))
  | some a =>
    (∀ c ∈ found, c.2 + minSilenceChunks ≤ a) ∧
      s.candidatePositiveDurationMs = spoken durationMs n (fun i => speech i ∧ a ≤ i) ∧
      if s.confirmed then
        Run speech a (a + minSpeechChunks) ∧ a + minSpeechChunks + s.silenceChunks ≤ n ∧
          s.silenceChunks < minSilenceChunks ∧ speech (n - s.silenceChunks - 1) ∧
          Silent speech (n - s.silenceChunks) n ∧
          ∀ p, a ≤ p → p + minSilenceChunks ≤ n → ¬Silent speech p (p + minSilenceChunks)
      else
        Run speech a n ∧ s.consecutiveSpeechChunks = n - a ∧ a < n ∧ n - a < minSpeechChunks ∧
          s.silenceChunks = 0 ∧ (a = 0 ∨ ¬speech (a - 1))

/-- After `n` chunks. -/
structure Inv (durationMs n : Nat) (s : Evidence) (found : List (Nat × Nat)) : Prop where
  joined : Intervals.Joined (found.filterMap (cut durationMs)) s.segments
  total : s.confirmedPositiveDurationMs =
    spoken durationMs n fun i => speech i ∧ Belongs found i
  candidate : ∀ c ∈ found, Candidate speech c.1 c.2 ∧ c.2 + minSilenceChunks ≤ n
  closed : ∀ c ∈ found, Silent speech c.2 (c.2 + minSilenceChunks)
  apart : found.Pairwise fun later earlier => earlier.2 + minSilenceChunks ≤ later.1
  runs : ∀ p, Run speech p (p + minSpeechChunks) → p + minSpeechChunks ≤ n →
    (∃ c ∈ found, c.1 ≤ p ∧ p + minSpeechChunks ≤ c.2) ∨
      ∃ a, s.candidateStart = some a ∧ s.confirmed = true ∧ a ≤ p
  opened : Opened speech durationMs n s found

variable {speech}

theorem spoken_succ (durationMs n : Nat) (P : Nat → Prop) [Decidable (P n)] :
    spoken durationMs (n + 1) P =
      spoken durationMs n P + if P n then chunkTime durationMs n else 0 := by
  rw [spoken, Finset.sum_range_succ]
  congr

theorem spoken_congr {durationMs n : Nat} {P Q : Nat → Prop} (h : ∀ i, i < n → (P i ↔ Q i)) :
    spoken durationMs n P = spoken durationMs n Q := by
  refine Finset.sum_congr rfl fun i hi => ?_
  have hiff := h i (Finset.mem_range.1 hi)
  by_cases hP : P i
  · rw [if_pos hP, if_pos (hiff.1 hP)]
  · rw [if_neg hP, if_neg (mt hiff.2 hP)]

theorem spoken_or {durationMs n : Nat} {P Q : Nat → Prop} (h : ∀ i, i < n → P i → ¬Q i) :
    spoken durationMs n (fun i => P i ∨ Q i) = spoken durationMs n P + spoken durationMs n Q := by
  rw [spoken, spoken, spoken, ← Finset.sum_add_distrib]
  refine Finset.sum_congr rfl fun i hi => ?_
  have hnot := h i (Finset.mem_range.1 hi)
  by_cases hP : P i
  · rw [if_pos (.inl hP), if_pos hP, if_neg (hnot hP), Nat.add_zero]
  · by_cases hQ : Q i
    · rw [if_pos (.inr hQ), if_neg hP, if_pos hQ, Nat.zero_add]
    · rw [if_neg (not_or.2 ⟨hP, hQ⟩), if_neg hP, if_neg hQ]

theorem spoken_none {durationMs n : Nat} {P : Nat → Prop} (h : ∀ i, i < n → ¬P i) :
    spoken durationMs n P = 0 :=
  Finset.sum_eq_zero fun i hi => if_neg (h i (Finset.mem_range.1 hi))

theorem spoken_take {durationMs n : Nat} {P : Nat → Prop} (h : P n) :
    spoken durationMs (n + 1) P = spoken durationMs n P + chunkTime durationMs n := by
  classical rw [spoken_succ, if_pos h]

theorem spoken_skip {durationMs n : Nat} {P : Nat → Prop} (h : ¬P n) :
    spoken durationMs (n + 1) P = spoken durationMs n P := by
  classical rw [spoken_succ, if_neg h, Nat.add_zero]

theorem Inv.before {durationMs n : Nat} {s : Evidence} {found : List (Nat × Nat)}
    (h : Inv speech durationMs n s found) : ¬Belongs found n := by
  rintro ⟨c, hc, -, hlt⟩
  have hend := (h.candidate c hc).2
  simp only [minSilenceChunks] at hend
  omega

/-! ### A chunk of speech -/

theorem step_speech (durationMs n : Nat) (s : Evidence) :
    step durationMs n true s =
      { s with
        candidateStart := some (s.candidateStart.getD n)
        candidatePositiveDurationMs := s.candidatePositiveDurationMs + chunkTime durationMs n
        consecutiveSpeechChunks := s.consecutiveSpeechChunks + 1
        confirmed := s.confirmed || minSpeechChunks ≤ s.consecutiveSpeechChunks + 1
        silenceChunks := 0 } := if_pos rfl

/-- A run that ends with this chunk is part of the candidate this chunk belongs to. -/
theorem Opened.reaches {durationMs n p : Nat} {s : Evidence} {found : List (Nat × Nat)}
    (h : Opened speech durationMs n s found) (hrun : Run speech p (n + 1))
    (hlong : p + minSpeechChunks = n + 1) :
    s.candidateStart.getD n ≤ p ∧
      (s.confirmed || minSpeechChunks ≤ s.consecutiveSpeechChunks + 1) = true := by
  simp only [minSpeechChunks] at hlong
  have hprevious : speech (n - 1) := hrun (n - 1) (by omega) (by omega)
  simp only [Opened] at h
  cases hstart : s.candidateStart with
  | none =>
    rw [hstart] at h
    rcases h.2.2.2 with hzero | hsilent
    · omega
    · exact absurd hprevious hsilent
  | some a =>
    rw [hstart] at h
    obtain ⟨-, -, h⟩ := h
    rw [Option.getD_some]
    by_cases hconfirmed : s.confirmed = true
    · rw [if_pos hconfirmed] at h
      have hwithin := h.2.1
      simp only [minSpeechChunks] at hwithin
      exact ⟨by omega, by rw [hconfirmed, Bool.true_or]⟩
    · rw [if_neg hconfirmed] at h
      obtain ⟨-, hcount, hlt, -, -, hfirst⟩ := h
      have hle : a ≤ p := by
        by_cases hle : a ≤ p
        · exact hle
        · rcases hfirst with hzero | hsilent
          · omega
          · exact absurd (hrun (a - 1) (by omega) (by omega)) hsilent
      refine ⟨hle, ?_⟩
      rw [Bool.or_eq_true, decide_eq_true_eq, minSpeechChunks]
      omega

theorem Opened.spoke {durationMs n : Nat} {s : Evidence} {found : List (Nat × Nat)}
    (h : Opened speech durationMs n s found) (hnow : speech n)
    (hfound : ∀ c ∈ found, c.2 + minSilenceChunks ≤ n) :
    Opened speech durationMs (n + 1) (step durationMs n true s) found := by
  rw [step_speech]
  simp only [Opened] at h ⊢
  cases hstart : s.candidateStart with
  | none =>
    rw [hstart] at h
    obtain ⟨hconfirmed, hcount, htime, hfirst⟩ := h
    simp only [Option.getD_none, hconfirmed, hcount, htime, Nat.zero_add, Bool.false_or]
    refine ⟨hfound, ?_, ?_⟩
    · rw [spoken_take ⟨hnow, le_refl n⟩, spoken_none fun i hi hP => by omega, Nat.zero_add]
    · rw [if_neg (by simp [minSpeechChunks])]
      refine ⟨fun i hfrom huntil => ?_, by omega, by omega, by simp [minSpeechChunks], trivial,
        hfirst⟩
      rwa [show i = n by omega]
  | some a =>
    rw [hstart] at h
    obtain ⟨hafter, htime, h⟩ := h
    have hle : a ≤ n := by
      by_cases hconfirmed : s.confirmed = true
      · rw [if_pos hconfirmed] at h
        omega
      · rw [if_neg hconfirmed] at h
        omega
    simp only [Option.getD_some]
    refine ⟨hafter, ?_, ?_⟩
    · rw [spoken_take ⟨hnow, hle⟩, htime]
    by_cases hconfirmed : s.confirmed = true
    · rw [if_pos hconfirmed] at h
      obtain ⟨hcertain, hwithin, -, -, -, hunbroken⟩ := h
      rw [if_pos (by rw [hconfirmed, Bool.true_or])]
      refine ⟨hcertain, by omega, by simp [minSilenceChunks], hnow, fun i hfrom huntil => by omega,
        fun p hfrom hend hsilent => ?_⟩
      by_cases hold : p + minSilenceChunks ≤ n
      · exact hunbroken p hfrom hold hsilent
      · exact hsilent n (by simp only [minSilenceChunks] at *; omega) (by omega) hnow
    · rw [if_neg hconfirmed] at h
      obtain ⟨hrun, hcount, hlt, hshort, -, hfirst⟩ := h
      have hrun' : Run speech a (n + 1) := by
        intro i hfrom huntil
        by_cases hnew : i = n
        · rwa [hnew]
        · exact hrun i hfrom (by omega)
      by_cases hlong : minSpeechChunks ≤ s.consecutiveSpeechChunks + 1
      · rw [if_pos (by rw [Bool.or_eq_true, decide_eq_true_eq]; exact .inr hlong)]
        have hend : a + minSpeechChunks = n + 1 := by omega
        refine ⟨hend ▸ hrun', by omega, by simp [minSilenceChunks], hnow,
          fun i hfrom huntil => by omega, fun p hfrom hend hsilent => ?_⟩
        exact hsilent p (le_refl p) (by simp [minSilenceChunks])
          (hrun' p hfrom (by simp only [minSilenceChunks] at hend; omega))
      · rw [if_neg (by rw [Bool.or_eq_true, decide_eq_true_eq]; exact not_or.2 ⟨hconfirmed, hlong⟩)]
        exact ⟨hrun', by omega, by omega, by omega, trivial, hfirst⟩

theorem Inv.spoke {durationMs n : Nat} {s : Evidence} {found : List (Nat × Nat)}
    (h : Inv speech durationMs n s found) (hnow : speech n) :
    Inv speech durationMs (n + 1) (step durationMs n true s) found where
  joined := by rw [step_speech]; exact h.joined
  total := by rw [spoken_skip fun hP => h.before hP.2, step_speech]; exact h.total
  candidate := fun c hc => ⟨(h.candidate c hc).1, by have := (h.candidate c hc).2; omega⟩
  closed := h.closed
  apart := h.apart
  runs := by
    intro p hrun hend
    by_cases hold : p + minSpeechChunks ≤ n
    · rcases h.runs p hrun hold with hfound | ⟨a, hstart, hconfirmed, hle⟩
      · exact .inl hfound
      · exact .inr ⟨a, by rw [step_speech, hstart, Option.getD_some],
          by rw [step_speech, hconfirmed, Bool.true_or], hle⟩
    · have hlong : p + minSpeechChunks = n + 1 := by omega
      have hreach := h.opened.reaches (hlong ▸ hrun) hlong
      exact .inr ⟨_, by rw [step_speech], by rw [step_speech]; exact hreach.2, hreach.1⟩
  opened := h.opened.spoke hnow fun c hc => (h.candidate c hc).2

/-! ### A silent chunk -/

/-- The open candidate is a certain one. -/
structure OpenCertain (speech : Nat → Prop) (durationMs n a : Nat) (s : Evidence) (found : List (Nat × Nat)) : Prop where
  after : ∀ c ∈ found, c.2 + minSilenceChunks ≤ a
  time : s.candidatePositiveDurationMs = spoken durationMs n fun i => speech i ∧ a ≤ i
  certain : Run speech a (a + minSpeechChunks)
  long : a + minSpeechChunks + s.silenceChunks ≤ n
  short : s.silenceChunks < minSilenceChunks
  last : speech (n - s.silenceChunks - 1)
  silent : Silent speech (n - s.silenceChunks) n
  unbroken : ∀ p, a ≤ p → p + minSilenceChunks ≤ n → ¬Silent speech p (p + minSilenceChunks)

theorem Opened.certain {durationMs n a : Nat} {s : Evidence} {found : List (Nat × Nat)}
    (h : Opened speech durationMs n s found) (hstart : s.candidateStart = some a)
    (hconfirmed : s.confirmed = true) : OpenCertain speech durationMs n a s found := by
  rw [Opened, hstart] at h
  obtain ⟨hafter, htime, h⟩ := h
  rw [if_pos hconfirmed] at h
  obtain ⟨hcertain, hlong, hshort, hlast, hsilent, hunbroken⟩ := h
  exact ⟨hafter, htime, hcertain, hlong, hshort, hlast, hsilent, hunbroken⟩

/-- A silent chunk that changes no segment: the runs seen so far stay where they were. -/
theorem Inv.silent_runs {durationMs n : Nat} {s s' : Evidence} {found : List (Nat × Nat)}
    (h : Inv speech durationMs n s found) (hnow : ¬speech n)
    (hsame : s.confirmed = true → s'.candidateStart = s.candidateStart ∧ s'.confirmed = true) :
    ∀ p, Run speech p (p + minSpeechChunks) → p + minSpeechChunks ≤ n + 1 →
      (∃ c ∈ found, c.1 ≤ p ∧ p + minSpeechChunks ≤ c.2) ∨
        ∃ a, s'.candidateStart = some a ∧ s'.confirmed = true ∧ a ≤ p := by
  intro p hrun hend
  by_cases hold : p + minSpeechChunks ≤ n
  · rcases h.runs p hrun hold with hfound | ⟨a, hstart, hconfirmed, hle⟩
    · exact .inl hfound
    · obtain ⟨hstart', hconfirmed'⟩ := hsame hconfirmed
      exact .inr ⟨a, hstart'.trans hstart, hconfirmed', hle⟩
  · exact absurd (hrun n (by simp only [minSpeechChunks] at *; omega) (by omega)) hnow

/-- No candidate is closed by the chunk. -/
theorem Inv.silent {durationMs n : Nat} {s s' : Evidence} {found : List (Nat × Nat)}
    (h : Inv speech durationMs n s found) (hnow : ¬speech n)
    (hsegments : s'.segments = s.segments)
    (htotal : s'.confirmedPositiveDurationMs = s.confirmedPositiveDurationMs)
    (hsame : s.confirmed = true → s'.candidateStart = s.candidateStart ∧ s'.confirmed = true)
    (hopened : Opened speech durationMs (n + 1) s' found) :
    Inv speech durationMs (n + 1) s' found where
  joined := hsegments ▸ h.joined
  total := by rw [spoken_skip fun hP => hnow hP.1, htotal]; exact h.total
  candidate := fun c hc => ⟨(h.candidate c hc).1, by have := (h.candidate c hc).2; omega⟩
  closed := h.closed
  apart := h.apart
  runs := h.silent_runs hnow hsame
  opened := hopened

/-- The candidate goes on. -/
theorem OpenCertain.pause {durationMs n a : Nat} {s : Evidence} {found : List (Nat × Nat)}
    (h : OpenCertain speech durationMs n a s found) (hnow : ¬speech n)
    (hconfirmed : s.confirmed = true) (hshort : s.silenceChunks + 1 < minSilenceChunks) :
    Opened speech durationMs (n + 1)
      { s with
        candidateStart := some a
        consecutiveSpeechChunks := 0
        silenceChunks := s.silenceChunks + 1 } found := by
  simp only [Opened]
  refine ⟨h.after, ?_, ?_⟩
  · rw [spoken_skip fun hP => hnow hP.1]
    exact h.time
  rw [if_pos hconfirmed]
  have hlong := h.long
  refine ⟨h.certain, by omega, hshort, ?_, fun i hfrom huntil => ?_, fun p hfrom hend hsilent => ?_⟩
  · rw [show n + 1 - (s.silenceChunks + 1) - 1 = n - s.silenceChunks - 1 by omega]
    exact h.last
  · by_cases hnew : i = n
    · rwa [hnew]
    · exact h.silent i (by omega) (by omega)
  · by_cases hold : p + minSilenceChunks ≤ n
    · exact h.unbroken p hfrom hold hsilent
    · simp only [minSilenceChunks, minSpeechChunks] at *
      exact hsilent (n - s.silenceChunks - 1) (by omega) (by omega) h.last

/-- The open candidate ends before the silence it is followed by. -/
theorem OpenCertain.candidate {durationMs n a : Nat} {s : Evidence} {found : List (Nat × Nat)}
    (h : OpenCertain speech durationMs n a s found) :
    Candidate speech a (n - s.silenceChunks) where
  certain := h.certain
  long := by have := h.long; omega
  last := h.last
  unbroken := fun p hfrom hend => h.unbroken p hfrom (by omega)

theorem belongs_cons {a b i : Nat} {found : List (Nat × Nat)} :
    Belongs ((a, b) :: found) i ↔ (a ≤ i ∧ i < b) ∨ Belongs found i := by
  simp [Belongs]

/-- The time spoken in the open candidate is added to that of the others. -/
theorem OpenCertain.total {durationMs n a : Nat} {s : Evidence} {found : List (Nat × Nat)}
    (h : OpenCertain speech durationMs n a s found)
    (htotal : s.confirmedPositiveDurationMs =
      spoken durationMs n fun i => speech i ∧ Belongs found i) :
    s.confirmedPositiveDurationMs + s.candidatePositiveDurationMs =
      spoken durationMs n fun i => speech i ∧ Belongs ((a, n - s.silenceChunks) :: found) i := by
  rw [htotal, h.time, Nat.add_comm, ← spoken_or]
  · refine spoken_congr fun i hi => ?_
    rw [belongs_cons]
    constructor
    · rintro (⟨hspeech, hfrom⟩ | ⟨hspeech, hbelongs⟩)
      · refine ⟨hspeech, .inl ⟨hfrom, ?_⟩⟩
        by_cases hlt : i < n - s.silenceChunks
        · exact hlt
        · exact absurd hspeech (h.silent i (by omega) hi)
      · exact ⟨hspeech, .inr hbelongs⟩
    · rintro ⟨hspeech, ⟨hfrom, -⟩ | hbelongs⟩
      · exact .inl ⟨hspeech, hfrom⟩
      · exact .inr ⟨hspeech, hbelongs⟩
  · rintro i - ⟨-, hfrom⟩ ⟨-, c, hc, -, hlt⟩
    have hafter := h.after c hc
    simp only [minSilenceChunks] at hafter
    omega

/-- The padded candidate is joined to the segments. -/
theorem joined_close {durationMs a b : Nat} {segments found : List (Nat × Nat)}
    (h : Intervals.Joined (found.filterMap (cut durationMs)) segments)
    (hafter : ∀ c ∈ found, c.1 ≤ a) :
    Intervals.Joined (((a, b) :: found).filterMap (cut durationMs))
      (appendSegment durationMs (a * vadChunkMilliseconds - speechPaddingMs)
        (b * vadChunkMilliseconds + speechPaddingMs) segments) := by
  simp only [appendSegment]
  by_cases hempty : min durationMs (b * vadChunkMilliseconds + speechPaddingMs) ≤
      a * vadChunkMilliseconds - speechPaddingMs
  · rw [if_pos hempty, List.filterMap_cons_none (by simp only [cut, if_pos hempty])]
    exact h
  · have hcut : cut durationMs (a, b) = some (a * vadChunkMilliseconds - speechPaddingMs,
        min durationMs (b * vadChunkMilliseconds + speechPaddingMs)) := if_neg hempty
    rw [if_neg hempty, List.filterMap_cons_some hcut]
    refine h.add (by omega) fun i hi => ?_
    obtain ⟨c, hc, hcut⟩ := List.mem_filterMap.1 hi
    have hle := hafter c hc
    simp only [cut] at hcut
    split at hcut
    · cases hcut
    · cases hcut
      simp only [vadChunkMilliseconds, speechPaddingMs]
      omega

theorem OpenCertain.later {durationMs n a : Nat} {s : Evidence} {found : List (Nat × Nat)}
    (h : OpenCertain speech durationMs n a s found)
    (hcandidate : ∀ c ∈ found, Candidate speech c.1 c.2) : ∀ c ∈ found, c.1 ≤ a := by
  intro c hc
  have hlong := (hcandidate c hc).long
  have hafter := h.after c hc
  omega

/-- A run lies in the candidate that closes when it lay in the open one. -/
theorem Inv.closed_runs {durationMs n a : Nat} {s : Evidence} {found : List (Nat × Nat)}
    (h : Inv speech durationMs n s found)
    (hopen : OpenCertain speech durationMs n a s found)
    (hstart : s.candidateStart = some a) :
    ∀ p, Run speech p (p + minSpeechChunks) → p + minSpeechChunks ≤ n →
      ∃ c ∈ (a, n - s.silenceChunks) :: found, c.1 ≤ p ∧ p + minSpeechChunks ≤ c.2 := by
  intro p hrun hend
  rcases h.runs p hrun hend with ⟨c, hc, hwithin⟩ | ⟨a', hstart', -, hle⟩
  · exact ⟨c, List.mem_cons_of_mem _ hc, hwithin⟩
  · rw [hstart, Option.some.injEq] at hstart'
    refine ⟨_, List.mem_cons_self, hstart'.trans_le hle, ?_⟩
    by_cases hwithin : p + minSpeechChunks ≤ n - s.silenceChunks
    · exact hwithin
    · have hspeech := hrun (p + minSpeechChunks - 1) (by simp only [minSpeechChunks]; omega) (by omega)
      exact absurd hspeech (hopen.silent _ (by omega) (by omega))

/-- The chunk is the last of a silence that ends the candidate. -/
theorem Inv.close {durationMs n a : Nat} {s : Evidence} {found : List (Nat × Nat)}
    (h : Inv speech durationMs n s found) (hnow : ¬speech n) (hstart : s.candidateStart = some a)
    (hconfirmed : s.confirmed = true) (hlong : ¬s.silenceChunks + 1 < minSilenceChunks) :
    Inv speech durationMs (n + 1) (close durationMs a (n + 1 - (s.silenceChunks + 1)) s)
      ((a, n - s.silenceChunks) :: found) := by
  have hopen := h.opened.certain hstart hconfirmed
  have hsilence : s.silenceChunks + 1 = minSilenceChunks := by have := hopen.short; omega
  have hends : n - s.silenceChunks + minSilenceChunks = n + 1 := by
    have := hopen.long
    omega
  rw [Nat.add_sub_add_right]
  refine
    { joined := joined_close h.joined (hopen.later fun c hc => (h.candidate c hc).1)
      total := ?_
      candidate := ?_
      closed := ?_
      apart := List.pairwise_cons.2 ⟨hopen.after, h.apart⟩
      runs := ?_
      opened := ⟨rfl, rfl, rfl, .inr hnow⟩ }
  · rw [spoken_skip fun hP => hnow hP.1]
    exact hopen.total h.total
  · rw [List.forall_mem_cons]
    exact ⟨⟨hopen.candidate, hends.le⟩, fun c hc =>
      ⟨(h.candidate c hc).1, by have := (h.candidate c hc).2; omega⟩⟩
  · rw [List.forall_mem_cons]
    refine ⟨fun i hfrom huntil => ?_, h.closed⟩
    by_cases hnew : i = n
    · rwa [hnew]
    · exact hopen.silent i hfrom (by omega)
  · intro p hrun hend
    by_cases hold : p + minSpeechChunks ≤ n
    · exact .inl (h.closed_runs hopen hstart p hrun hold)
    · exact absurd (hrun n (by simp only [minSpeechChunks] at *; omega) (by omega)) hnow

theorem Inv.silence {durationMs n : Nat} {s : Evidence} {found : List (Nat × Nat)}
    (h : Inv speech durationMs n s found) (hnow : ¬speech n) :
    ∃ found', Inv speech durationMs (n + 1) (step durationMs n false s) found' := by
  simp only [step, Bool.false_eq_true, if_false]
  cases hstart : s.candidateStart with
  | none =>
    have hopened := h.opened
    rw [Opened, hstart] at hopened
    obtain ⟨hconfirmed, hcount, htime, -⟩ := hopened
    refine ⟨found, h.silent hnow rfl rfl (fun hyes => ⟨rfl, hyes⟩) ?_⟩
    rw [Opened, hstart]
    exact ⟨hconfirmed, hcount, htime, .inr hnow⟩
  | some a =>
    by_cases hconfirmed : s.confirmed = false
    · refine ⟨found, ?_⟩
      simp only [hconfirmed, if_true]
      exact h.silent hnow rfl rfl (fun hyes => nomatch hconfirmed.symm.trans hyes)
        ⟨rfl, rfl, rfl, .inr hnow⟩
    · have hyes : s.confirmed = true := eq_true_of_ne_false hconfirmed
      simp only [if_neg hconfirmed]
      by_cases hshort : s.silenceChunks + 1 < minSilenceChunks
      · rw [if_pos hshort]
        exact ⟨found, h.silent hnow rfl rfl (fun _ => ⟨hstart.symm, hyes⟩)
          ((h.opened.certain hstart hyes).pause hnow hyes hshort)⟩
      · rw [if_neg hshort]
        exact ⟨_, h.close hnow hstart hyes hshort⟩

/-! ## The whole recording -/

theorem inv_start (durationMs : Nat) : Inv speech durationMs 0 {} [] where
  joined := Intervals.joined_nil
  total := by rw [spoken_none nofun]
  candidate := nofun
  closed := nofun
  apart := .nil
  runs := fun p _ hend => by simp only [minSpeechChunks] at hend; omega
  opened := ⟨rfl, rfl, rfl, .inl rfl⟩

/-- Induction on the chunks still to come. -/
theorem Inv.run {durationMs : Nat} {probabilities : List ℚ} {n : Nat} {s : Evidence}
    {found : List (Nat × Nat)} (h : Inv speech durationMs n s found)
    (hspeech : ∀ i p, probabilities[i]? = some p → (speech (n + i) ↔ p ≥ 1 / 2)) :
    ∃ found', Inv speech durationMs (n + probabilities.length)
      (evidenceFrom durationMs n probabilities s) found' := by
  induction probabilities generalizing n s found with
  | nil => exact ⟨found, h⟩
  | cons p probabilities ih =>
    have hnow : speech n ↔ p ≥ 1 / 2 := hspeech 0 p rfl
    have hrest : ∀ i q, probabilities[i]? = some q → (speech (n + 1 + i) ↔ q ≥ 1 / 2) := by
      intro i q hq
      rw [Nat.add_right_comm, Nat.add_assoc]
      exact hspeech (i + 1) q hq
    rw [List.length_cons, Nat.add_comm probabilities.length, ← Nat.add_assoc]
    by_cases hp : p ≥ 1 / 2
    · simp only [evidenceFrom, decide_eq_true hp]
      exact ih (h.spoke (hnow.2 hp)) hrest
    · simp only [evidenceFrom, decide_eq_false hp]
      obtain ⟨found', h'⟩ := h.silence (mt hnow.1 hp)
      exact ih h' hrest

/-- What is said of the evidence when the recording is over. -/
structure Evident (speech : Nat → Prop) (durationMs n : Nat) (found segments : List (Nat × Nat))
    (total : Nat) : Prop where
  candidates : Candidates speech n found
  joined : Intervals.Joined (found.filterMap (cut durationMs)) segments
  total : total = spoken durationMs n fun i => speech i ∧ Belongs found i

/-- Nothing is left open. -/
theorem Inv.evident {durationMs n : Nat} {s : Evidence} {found : List (Nat × Nat)}
    (h : Inv speech durationMs n s found) (hopen : s.candidateStart = none ∨ s.confirmed = false) :
    Evident speech durationMs n found s.segments s.confirmedPositiveDurationMs where
  joined := h.joined
  total := h.total
  candidates :=
    { candidate := fun c hc => ⟨(h.candidate c hc).1, by have := (h.candidate c hc).2; omega⟩
      closed := fun c hc i hfrom huntil => h.closed c hc i hfrom (by omega)
      apart := h.apart
      runs := fun p hrun hend => by
        rcases h.runs p hrun hend with hfound | ⟨a, hstart, hconfirmed, -⟩
        · exact hfound
        · rcases hopen with hnone | hno
          · exact nomatch hnone.symm.trans hstart
          · exact nomatch hno.symm.trans hconfirmed }

theorem Inv.finish {durationMs n : Nat} {s : Evidence} {found : List (Nat × Nat)}
    (h : Inv speech durationMs n s found) :
    ∃ found', Evident speech durationMs n found' (finish durationMs n s).segments
      (finish durationMs n s).confirmedPositiveDurationMs := by
  cases hstart : s.candidateStart with
  | none =>
    simp only [SpeechEvidence.finish, hstart]
    exact ⟨found, h.evident (.inl hstart)⟩
  | some a =>
    by_cases hconfirmed : s.confirmed = true
    · simp only [SpeechEvidence.finish, hstart, if_pos hconfirmed]
      have hopen := h.opened.certain hstart hconfirmed
      refine ⟨(a, n - s.silenceChunks) :: found,
        ⟨?_, ?_, List.pairwise_cons.2 ⟨hopen.after, h.apart⟩, h.closed_runs hopen hstart⟩,
        joined_close h.joined (hopen.later fun c hc => (h.candidate c hc).1),
        hopen.total h.total⟩
      · rw [List.forall_mem_cons]
        exact ⟨⟨hopen.candidate, Nat.sub_le _ _⟩, fun c hc =>
          ⟨(h.candidate c hc).1, by have := (h.candidate c hc).2; omega⟩⟩
      · rw [List.forall_mem_cons]
        exact ⟨fun i hfrom huntil => hopen.silent i hfrom (by omega), fun c hc i hfrom huntil =>
          h.closed c hc i hfrom (by omega)⟩
    · simp only [SpeechEvidence.finish, hstart, if_neg hconfirmed]
      exact ⟨found, h.evident (.inr (eq_false_of_ne_true hconfirmed))⟩

/-! ## What the segments are -/

variable (speech) in
/-- The chunk belongs to a certain candidate: nothing since a run that makes one certain has
ended it. -/
def Confirmed (i : Nat) : Prop :=
  ∃ a, Run speech a (a + minSpeechChunks) ∧ a ≤ i ∧
    ∀ p, a ≤ p → p + minSilenceChunks ≤ i + 1 → ¬Silent speech p (p + minSilenceChunks)

/-- The segments said of the chunks alone; a chunk `i` lasts from `32 * i` ms. -/
structure Segmented (speech : Nat → Prop) (durationMs n : Nat) (segments : List (Nat × Nat))
    (total : Nat) : Prop where
  ordered : segments.Pairwise fun earlier later => earlier.2 < later.1
  inside : ∀ s ∈ segments, s.1 < s.2 ∧ s.2 ≤ durationMs
  runs : ∀ p q, Run speech p q → p + minSpeechChunks ≤ q → q ≤ n →
    p * vadChunkMilliseconds < durationMs →
    ∃ s ∈ segments, s.1 ≤ p * vadChunkMilliseconds ∧
      min durationMs (q * vadChunkMilliseconds) ≤ s.2
  certain : ∀ s ∈ segments, ∃ a, Run speech a (a + minSpeechChunks) ∧
    s.1 ≤ a * vadChunkMilliseconds ∧
    min durationMs ((a + minSpeechChunks) * vadChunkMilliseconds) ≤ s.2
  gaps : ∀ s ∈ segments, ∀ p q, Silent speech p q → p + minSilenceChunks ≤ q →
    s.1 ≤ p * vadChunkMilliseconds → q * vadChunkMilliseconds ≤ s.2 →
    (q - p) * vadChunkMilliseconds ≤ 2 * speechPaddingMs
  spoken : total = spoken durationMs n fun i => speech i ∧ Confirmed speech i

/-- A run does not go on after the candidate it lies in. -/
theorem Candidates.run_within {n p q : Nat} {found : List (Nat × Nat)}
    (h : Candidates speech n found) (hrun : Run speech p q) (hlong : p + minSpeechChunks ≤ q)
    (hend : q ≤ n) : ∃ c ∈ found, c.1 ≤ p ∧ q ≤ c.2 := by
  obtain ⟨c, hc, hstart, hcertain⟩ :=
    h.runs p (fun i hfrom huntil => hrun i hfrom (by omega)) (by omega)
  refine ⟨c, hc, hstart, ?_⟩
  by_cases hwithin : q ≤ c.2
  · exact hwithin
  · have hsilent := h.closed c hc c.2 (le_refl _) (by simp only [minSilenceChunks]; omega)
    exact absurd (hrun c.2 (by omega) (by omega)) hsilent

theorem Candidates.belongs_iff {n i : Nat} {found : List (Nat × Nat)}
    (h : Candidates speech n found) (hspeech : speech i) (hi : i < n)
    (hn : ∀ j, speech j → j < n) : Belongs found i ↔ Confirmed speech i := by
  constructor
  · rintro ⟨c, hc, hfrom, huntil⟩
    have hcandidate := (h.candidate c hc).1
    exact ⟨c.1, hcandidate.certain, hfrom, fun p hp hend => hcandidate.unbroken p hp (by omega)⟩
  · rintro ⟨a, hrun, hfrom, hunbroken⟩
    have hend : a + minSpeechChunks ≤ n := by
      have hlast := hn _ (hrun (a + minSpeechChunks - 1) (by simp only [minSpeechChunks]; omega)
        (by simp only [minSpeechChunks]; omega))
      omega
    obtain ⟨c, hc, hstart, hwithin⟩ := h.runs a hrun hend
    refine ⟨c, hc, by omega, ?_⟩
    by_cases hlt : i < c.2
    · exact hlt
    · have hclosed := h.closed c hc
      by_cases hended : c.2 + minSilenceChunks ≤ i + 1
      · refine absurd (fun j hj hj' => ?_) (hunbroken c.2 (by omega) hended)
        exact hclosed j hj (by omega)
      · exact absurd hspeech (hclosed i (by omega) (by omega))

theorem mem_cut {durationMs : Nat} {found : List (Nat × Nat)} {k : Nat × Nat}
    (h : k ∈ found.filterMap (cut durationMs)) :
    ∃ c ∈ found, k.1 = c.1 * vadChunkMilliseconds - speechPaddingMs ∧
      k.2 = min durationMs (c.2 * vadChunkMilliseconds + speechPaddingMs) := by
  obtain ⟨c, hc, hcut⟩ := List.mem_filterMap.1 h
  refine ⟨c, hc, ?_⟩
  simp only [cut] at hcut
  split at hcut
  · cases hcut
  · cases hcut
    exact ⟨rfl, rfl⟩

section

variable {durationMs n total : Nat} {found segments : List (Nat × Nat)}

theorem Evident.run_kept (h : Evident speech durationMs n found segments total) {p q : Nat}
    (hrun : Run speech p q) (hlong : p + minSpeechChunks ≤ q) (hend : q ≤ n)
    (hheard : p * vadChunkMilliseconds < durationMs) :
    ∃ s ∈ segments, s.1 ≤ p * vadChunkMilliseconds ∧
      min durationMs (q * vadChunkMilliseconds) ≤ s.2 := by
  obtain ⟨c, hc, hstart, hwithin⟩ := h.candidates.run_within hrun hlong hend
  simp only [vadChunkMilliseconds] at hheard ⊢
  have hcut : cut durationMs c = some (c.1 * vadChunkMilliseconds - speechPaddingMs,
      min durationMs (c.2 * vadChunkMilliseconds + speechPaddingMs)) := by
    refine if_neg ?_
    simp only [vadChunkMilliseconds, speechPaddingMs]
    omega
  obtain ⟨k, hk, hfrom, huntil⟩ := h.joined.covers _ (List.mem_filterMap.2 ⟨c, hc, hcut⟩)
  simp only [vadChunkMilliseconds, speechPaddingMs] at hfrom huntil
  exact ⟨k, hk, by omega, by omega⟩

theorem Evident.certain (h : Evident speech durationMs n found segments total) {s : Nat × Nat}
    (hs : s ∈ segments) :
    ∃ a, Run speech a (a + minSpeechChunks) ∧ s.1 ≤ a * vadChunkMilliseconds ∧
      min durationMs ((a + minSpeechChunks) * vadChunkMilliseconds) ≤ s.2 := by
  obtain ⟨k, hk, hstart, hend⟩ := h.joined.starts s hs
  obtain ⟨c, hc, hfrom, huntil⟩ := mem_cut hk
  have hcandidate := (h.candidates.candidate c hc).1
  refine ⟨c.1, hcandidate.certain, ?_, ?_⟩
  · rw [← hstart, hfrom]
    exact Nat.sub_le _ _
  · have hlong := hcandidate.long
    simp only [vadChunkMilliseconds, speechPaddingMs] at huntil ⊢
    omega

/-- Two candidates are joined over four silent chunks, which their padding fills, and over no
more. -/
theorem Evident.gap (h : Evident speech durationMs n found segments total) {s : Nat × Nat}
    (hs : s ∈ segments) {p q : Nat} (hsilent : Silent speech p q) (hlong : p + minSilenceChunks ≤ q)
    (hstart : s.1 ≤ p * vadChunkMilliseconds) (hend : q * vadChunkMilliseconds ≤ s.2) :
    (q - p) * vadChunkMilliseconds ≤ 2 * speechPaddingMs := by
  simp only [vadChunkMilliseconds, speechPaddingMs, minSilenceChunks] at *
  by_cases hshort : (q - p) * 32 ≤ 2 * 64
  · exact hshort
  -- the middle of the first four silent chunks is in no padding of a later candidate
  obtain ⟨k, hk, hfrom, huntil⟩ := h.joined.within s hs (p * 32 + 64) (by omega) (by omega)
  obtain ⟨c, hc, hk1, hk2⟩ := mem_cut hk
  have hcandidate := (h.candidates.candidate c hc).1
  simp only [vadChunkMilliseconds, speechPaddingMs] at hk1 hk2
  have hlast : q < c.2 := by
    by_cases hlast : q < c.2
    · exact hlast
    · exact absurd hcandidate.last (hsilent (c.2 - 1) (by omega) (by omega))
  have hfirst : c.1 < p := by
    by_cases hfirst : c.1 < p
    · exact hfirst
    · have hspeech := hcandidate.certain c.1 (le_refl _) (by simp only [minSpeechChunks]; omega)
      exact absurd hspeech (hsilent c.1 (by omega) (by omega))
  refine absurd (fun i hi hi' => ?_) (hcandidate.unbroken p (by omega)
    (by simp only [minSilenceChunks]; omega))
  exact hsilent i hi (by simp only [minSilenceChunks] at hi'; omega)

theorem Evident.segmented (h : Evident speech durationMs n found segments total)
    (hn : ∀ i, speech i → i < n) : Segmented speech durationMs n segments.reverse total where
  ordered := List.pairwise_reverse.2 h.joined.apart
  inside := fun s hs => by
    rw [List.mem_reverse] at hs
    obtain ⟨k, hk, hend⟩ := h.joined.ends s hs
    obtain ⟨c, -, -, huntil⟩ := mem_cut hk
    exact ⟨h.joined.nonempty s hs, by omega⟩
  runs := fun p q hrun hlong hend hheard => by
    obtain ⟨s, hs, hwithin⟩ := h.run_kept hrun hlong hend hheard
    exact ⟨s, List.mem_reverse.2 hs, hwithin⟩
  certain := fun s hs => h.certain (List.mem_reverse.1 hs)
  gaps := fun s hs p q hsilent hlong hstart hend =>
    h.gap (List.mem_reverse.1 hs) hsilent hlong hstart hend
  spoken := by
    rw [h.total]
    refine spoken_congr fun i hi => and_congr_right fun hspeech => ?_
    exact h.candidates.belongs_iff hspeech hi hn

end

/-- A chunk is speech when its probability is one half or more. -/
def SpeechAt (probabilities : List ℚ) (i : Nat) : Prop :=
  ∃ p, probabilities[i]? = some p ∧ p ≥ 1 / 2

/-- The loop finds what the candidates make of the chunks, or refuses too many segments. -/
theorem evidence_spec (probabilities : List ℚ) (durationMs : Nat) :
    ∃ segments total,
      Segmented (SpeechAt probabilities) durationMs probabilities.length segments total ∧
        aggregateProbabilityEvidence probabilities durationMs =
          if segments.length > maxSpeechSegments then none else some (segments, total) := by
  have hspeech : ∀ i p, probabilities[i]? = some p → (SpeechAt probabilities (0 + i) ↔ p ≥ 1 / 2) := by
    intro i p hp
    simp [SpeechAt, hp]
  obtain ⟨found, hrun⟩ := (@inv_start (SpeechAt probabilities) durationMs).run hspeech
  rw [Nat.zero_add] at hrun
  obtain ⟨found', hevident⟩ := hrun.finish
  refine ⟨_, _, hevident.segmented fun i hi => ?_, ?_⟩
  · obtain ⟨p, hp, -⟩ := hi
    exact (List.getElem?_eq_some_iff.1 hp).1
  · rw [aggregateProbabilityEvidence, List.length_reverse]

end

end AutomationTool.Executor.SpeechEvidence
