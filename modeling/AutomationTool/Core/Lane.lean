import Mathlib

/-!
# Spans on a lane, each over the end of the one before

A span starts somewhere, has a length, and lies over the last `overlap` units of the span
before it. `Chained` is the local rule a scheduler checks while it walks the lane. From it
follows how the whole lane looks:

* `Chained.sum`: the lane ends where the lengths less the overlaps put it.
* `Chained.covered`: no instant up to the end is without a span.
* `Chained.shared`: two spans at one instant are neighbours, inside the overlap.
* `Chained.count_le_two`, `Chained.alone`: at most two at once, and each a unit alone.
* `Chained.count_eq_one`, `Chained.pairwise`: without overlaps, exactly one at each instant,
  one after another.

Ends are natural numbers, instants are rational.
-/
namespace AutomationTool

structure Span where
  start : Nat
  length : Nat
  overlap : Nat
  deriving DecidableEq, Repr

namespace Span

def stop (s : Span) : Nat := s.start + s.length

/-- What the span before leaves of this one. -/
def tail (s : Span) : Nat := s.length - s.overlap

def Covers (s : Span) (x : ℚ) : Prop := (s.start : ℚ) ≤ x ∧ x < (s.stop : ℚ)

instance (s : Span) (x : ℚ) : Decidable (s.Covers x) := inferInstanceAs (Decidable (_ ∧ _))

theorem covers_iff {s : Span} {x : ℚ} (hx : 0 ≤ x) :
    s.Covers x ↔ s.start ≤ ⌊x⌋₊ ∧ ⌊x⌋₊ < s.stop := by
  unfold Covers
  rw [Nat.le_floor_iff hx, Nat.floor_lt hx]

/-- Each span starts its overlap before the end of the one before, leaves some of that one
uncovered, and is not itself covered whole. -/
def Chained (previousEnd previousTail : Nat) : List Span → Prop
  | [] => True
  | s :: spans =>
    s.overlap < s.length ∧ (s.overlap = 0 ∨ s.overlap < previousTail) ∧
      s.start + s.overlap = previousEnd ∧ Chained s.stop s.tail spans

/-- The end of the last span. -/
def lastStop (previousEnd : Nat) : List Span → Nat
  | [] => previousEnd
  | s :: spans => lastStop s.stop spans

theorem lastStop_eq_getLast? (e : Nat) (spans : List Span) :
    lastStop e spans = (spans.getLast?.map stop).getD e := by
  induction spans generalizing e with
  | nil => rfl
  | cons s spans ih =>
    cases spans with
    | nil => rfl
    | cons s' spans =>
      rw [lastStop, ih, List.getLast?_cons_cons, List.getLast?_cons]
      rfl

namespace Chained

variable {e t : Nat} {spans : List Span}

theorem sum (h : Chained e t spans) :
    lastStop e spans + (spans.map overlap).sum = e + (spans.map length).sum := by
  induction spans generalizing e t with
  | nil => simp [lastStop]
  | cons s spans ih =>
    obtain ⟨_, _, hstart, hrest⟩ := h
    have := ih hrest
    simp only [lastStop, List.map_cons, List.sum_cons, stop] at *
    omega

theorem le_lastStop (h : Chained e t spans) : e ≤ lastStop e spans := by
  induction spans generalizing e t with
  | nil => simp [lastStop]
  | cons s spans ih =>
    obtain ⟨hlen, _, hstart, hrest⟩ := h
    have := ih hrest
    simp only [lastStop, stop] at *
    omega

theorem stop_le_lastStop (h : Chained e t spans) : ∀ s ∈ spans, s.stop ≤ lastStop e spans := by
  induction spans generalizing e t with
  | nil => simp
  | cons s spans ih =>
    intro s' hs'
    rcases List.mem_cons.1 hs' with rfl | hs'
    · exact h.2.2.2.le_lastStop
    · exact ih h.2.2.2 s' hs'

/-- Past the first, the spans start after the end of what came before. -/
theorem start_gt (h : Chained e t spans) : ∀ s ∈ spans.tail, e < s.start := by
  induction spans generalizing e t with
  | nil => simp
  | cons s spans ih =>
    obtain ⟨hlen, _, hstart, hrest⟩ := h
    intro s' hs'
    have hstop : e < s.stop := by unfold stop; omega
    cases spans with
    | nil => simp at hs'
    | cons s₁ spans =>
      rcases List.mem_cons.1 hs' with rfl | hs'
      · obtain ⟨_, hov, hstart₁, _⟩ := hrest
        simp only [stop, tail] at *
        omega
      · exact hstop.trans (ih hrest s' hs')

theorem drop (h : Chained e t spans) {i : Nat} (hi : i < spans.length) :
    Chained spans[i].stop spans[i].tail (spans.drop (i + 1)) := by
  induction spans generalizing e t i with
  | nil => simp at hi
  | cons s spans ih =>
    cases i with
    | zero => exact h.2.2.2
    | succ i => exact ih h.2.2.2 (Nat.lt_of_succ_lt_succ hi)

/-- Neighbours: the later one starts its overlap before the earlier one ends. -/
theorem next (h : Chained e t spans) {i : Nat} (hi : i + 1 < spans.length) :
    (spans[i + 1].overlap = 0 ∨ spans[i + 1].overlap < spans[i].tail) ∧
      spans[i + 1].start + spans[i + 1].overlap = spans[i].stop := by
  have hd := h.drop (i := i) (by omega)
  rw [List.drop_eq_getElem_cons hi] at hd
  exact ⟨hd.2.1, hd.2.2.1⟩

/-- Spans that are no neighbours do not touch. -/
theorem apart (h : Chained e t spans) {i j : Nat} (hij : i + 1 < j) (hj : j < spans.length) :
    spans[i].stop < spans[j].start := by
  refine (h.drop (i := i) (by omega)).start_gt _ ?_
  rw [List.tail_drop]
  exact List.mem_drop_iff_getElem.2 ⟨j - (i + 2), by omega, by congr 1; omega⟩

theorem overlap_lt (h : Chained e t spans) : ∀ s ∈ spans, s.overlap < s.length := by
  induction spans generalizing e t with
  | nil => simp
  | cons s spans ih =>
    intro s' hs'
    rcases List.mem_cons.1 hs' with rfl | hs'
    · exact h.1
    · exact ih h.2.2.2 s' hs'

theorem covered (h : Chained e t spans) {x : ℚ} (hx : (e : ℚ) ≤ x)
    (hlt : x < (lastStop e spans : ℚ)) : ∃ s ∈ spans, s.Covers x := by
  induction spans generalizing e t with
  | nil => exact absurd hlt (not_lt.2 hx)
  | cons s spans ih =>
    obtain ⟨_, _, hstart, hrest⟩ := h
    by_cases hs : x < (s.stop : ℚ)
    · have hle : s.start ≤ e := by omega
      exact ⟨s, List.mem_cons_self, le_trans (by exact_mod_cast hle) hx, hs⟩
    · obtain ⟨s', hs', hc⟩ := ih hrest (not_lt.1 hs) hlt
      exact ⟨s', List.mem_cons_of_mem _ hs', hc⟩

theorem shared (h : Chained e t spans) {x : ℚ} (hx : 0 ≤ x) {i j : Nat} (hij : i < j)
    (hj : j < spans.length) (hxi : spans[i].Covers x) (hxj : spans[j].Covers x) :
    j = i + 1 ∧ x < ((spans[j].start + spans[j].overlap : Nat) : ℚ) := by
  rw [covers_iff hx] at hxi hxj
  by_cases hnext : i + 1 < j
  · have := h.apart hnext hj
    omega
  · obtain rfl : j = i + 1 := by omega
    refine ⟨rfl, ?_⟩
    rw [(h.next hj).2, ← Nat.floor_lt hx]
    exact hxi.2

/-- Before the end of what came before, only the first span has started. -/
theorem count_le_one (h : Chained e t spans) {x : ℚ} (hx : 0 ≤ x) (hlt : ⌊x⌋₊ < e) :
    spans.countP (fun s => s.Covers x) ≤ 1 := by
  cases spans with
  | nil => simp
  | cons s spans =>
    have hzero : spans.countP (fun s => s.Covers x) = 0 := by
      refine List.countP_eq_zero.2 fun s' hs' => ?_
      have := h.start_gt s' hs'
      simp only [covers_iff hx, decide_eq_true_eq]
      omega
    rw [List.countP_cons, hzero]
    split <;> simp

theorem count_le_two (h : Chained e t spans) {x : ℚ} (hx : 0 ≤ x) :
    spans.countP (fun s => s.Covers x) ≤ 2 := by
  induction spans generalizing e t with
  | nil => simp
  | cons s spans ih =>
    rw [List.countP_cons]
    by_cases hs : s.Covers x
    · have := h.2.2.2.count_le_one hx ((covers_iff hx).1 hs).2
      simp only [hs, decide_true, if_true]
      omega
    · simpa [hs] using ih h.2.2.2

/-- From the end of the one before on, a span is alone for at least one unit. -/
theorem alone (h : Chained e t spans) {i : Nat} (hi : i < spans.length) {x : ℚ}
    (hle : ((spans[i].start + spans[i].overlap : Nat) : ℚ) ≤ x)
    (hlt : x < ((spans[i].start + spans[i].overlap + 1 : Nat) : ℚ)) :
    spans[i].Covers x ∧ ∀ j (hj : j < spans.length), spans[j].Covers x → j = i := by
  have hx : 0 ≤ x := le_trans (Nat.cast_nonneg _) hle
  rw [← Nat.le_floor_iff hx] at hle
  rw [← Nat.floor_lt hx] at hlt
  have hlen := h.overlap_lt _ (List.getElem_mem hi)
  have hstop : spans[i].stop = spans[i].start + spans[i].length := rfl
  refine ⟨(covers_iff hx).2 (by omega), fun j hj hc => ?_⟩
  rw [covers_iff hx] at hc
  by_contra hne
  rcases Nat.lt_or_gt_of_ne hne with hji | hij
  · by_cases hnext : j + 1 < i
    · have := h.apart hnext hi
      omega
    · obtain rfl : i = j + 1 := by omega
      have := (h.next hi).2
      omega
  · by_cases hnext : i + 1 < j
    · have := h.apart hnext hj
      omega
    · obtain rfl : j = i + 1 := by omega
      obtain ⟨hov, hstart⟩ := h.next hj
      have htail : spans[i].tail = spans[i].length - spans[i].overlap := rfl
      omega

/-- Without overlaps every span starts after what came before. -/
theorem start_ge (h : Chained e t spans) (hov : ∀ s ∈ spans, s.overlap = 0) :
    ∀ s ∈ spans, e ≤ s.start := by
  cases spans with
  | nil => simp
  | cons s spans =>
    intro s' hs'
    rcases List.mem_cons.1 hs' with rfl | hs'
    · have := hov s' List.mem_cons_self
      have := h.2.2.1
      omega
    · exact (h.start_gt s' hs').le

theorem pairwise (h : Chained e t spans) (hov : ∀ s ∈ spans, s.overlap = 0) :
    spans.Pairwise fun a b => a.stop ≤ b.start := by
  induction spans generalizing e t with
  | nil => exact .nil
  | cons s spans ih =>
    have hov' : ∀ s' ∈ spans, s'.overlap = 0 := fun s' hs' => hov s' (List.mem_cons_of_mem _ hs')
    exact .cons (h.2.2.2.start_ge hov') (ih h.2.2.2 hov')

theorem count_eq_one (h : Chained e t spans) (hov : ∀ s ∈ spans, s.overlap = 0) {x : ℚ}
    (hx : (e : ℚ) ≤ x) (hlt : x < (lastStop e spans : ℚ)) :
    spans.countP (fun s => s.Covers x) = 1 := by
  have h0 : 0 ≤ x := le_trans (Nat.cast_nonneg _) hx
  induction spans generalizing e t with
  | nil => exact absurd hlt (not_lt.2 hx)
  | cons s spans ih =>
    obtain ⟨_, _, hstart, hrest⟩ := h
    have hs0 := hov s List.mem_cons_self
    have hov' : ∀ s' ∈ spans, s'.overlap = 0 := fun s' hs' => hov s' (List.mem_cons_of_mem _ hs')
    rw [List.countP_cons]
    by_cases hs : x < (s.stop : ℚ)
    · rw [← Nat.floor_lt h0] at hs
      rw [← Nat.le_floor_iff h0] at hx
      have hc : s.Covers x := (covers_iff h0).2 ⟨by omega, hs⟩
      have hzero : spans.countP (fun s => s.Covers x) = 0 := by
        refine List.countP_eq_zero.2 fun s' hs' => ?_
        have := hrest.start_ge hov' s' hs'
        simp only [covers_iff h0, decide_eq_true_eq]
        omega
      simp [hc, hzero]
    · have hc : ¬s.Covers x := fun hc => hs hc.2
      simpa [hc] using ih hrest hov' (not_lt.1 hs) hlt

end Chained
end Span
end AutomationTool
