import Mathlib

/-!
# Cheapest climbs

A climb of `k` steps goes up from place 0 through `k` places, each above the one before; its
`k`-th step to place `j` costs `cost k j`. A dynamic program keeps, for each `k`, the cost
of the cheapest climb to each place, -1 where there is none, and finds the next row with one
running choice.

* `best_next`: the running choice after one more place.
* `Best.step`: what the running choice and the cost of a step give for the next row.
* `climb_of_pairwise`: every increasing list of places from 0 on is a climb.
-/
namespace AutomationTool.Climbing

variable {cost : Nat → Nat → Int} {k i j : Nat} {c c' e : Int} {path : List Nat}

/-- A climb of `k` steps to place `j` for `c`, its places from the last to the first. -/
inductive Climb (cost : Nat → Nat → Int) : Nat → Nat → Int → List Nat → Prop
  | start : Climb cost 0 0 0 [0]
  | step {k i j : Nat} {c : Int} {path : List Nat} : Climb cost k i c path → i < j →
      Climb cost (k + 1) j (c + cost (k + 1) j) (j :: path)

/-- `c` is the least that a climb of `k` steps to `j` costs. -/
structure Cheapest (cost : Nat → Nat → Int) (k j : Nat) (c : Int) : Prop where
  reached : ∃ path, Climb cost k j c path
  le : ∀ c' path, Climb cost k j c' path → c ≤ c'

/-- What a row holds for place `j`. -/
def Entry (cost : Nat → Nat → Int) (k j : Nat) (e : Int) : Prop :=
  (e = -1 ∧ ∀ c path, ¬Climb cost k j c path) ∨ 0 ≤ e ∧ Cheapest cost k j e

/-- `i` is a place below `j` to which a climb of `k` steps is cheapest, for `c`. -/
structure Least (cost : Nat → Nat → Int) (k j : Nat) (c : Int) (i : Nat) : Prop where
  lt : i < j
  cheapest : Cheapest cost k i c
  le : ∀ i' < j, ∀ c' path, Climb cost k i' c' path → c ≤ c'

/-- The running choice among the places below `j`: its cost and its place, -1 while there is
none. -/
def Best (cost : Nat → Nat → Int) (k j : Nat) (best : Int × Int) : Prop :=
  (best.1 = -1 ∧ ∀ i < j, ∀ c path, ¬Climb cost k i c path) ∨
    0 ≤ best.1 ∧ ∃ i : Nat, best.2 = i ∧ Least cost k j best.1 i

/-- The choice when place `index` has been seen too; the earlier place wins a tie. -/
def nearer (best : Int × Int) (cost : Int) (index : Nat) : Int × Int :=
  if 0 ≤ cost ∧ (best.1 < 0 ∨ cost < best.1) then (cost, index) else best

theorem Climb.le (h : Climb cost k j c path) : k ≤ j := by
  induction h with
  | start => exact Nat.le_refl _
  | step _ hlt ih => omega

theorem not_climb_of_lt (h : j < k) : ¬Climb cost k j c path := fun hclimb => by
  have hle := hclimb.le
  omega

/-- Place `k` is reached in `k` steps. -/
theorem climb_all (cost : Nat → Nat → Int) : ∀ k, ∃ c path, Climb cost k k c path
  | 0 => ⟨_, _, .start⟩
  | k + 1 => by
    obtain ⟨c, path, h⟩ := climb_all cost k
    exact ⟨_, _, h.step (Nat.lt_succ_self k)⟩

theorem cheapest_start : Cheapest cost 0 0 0 where
  reached := ⟨_, .start⟩
  le := by
    intro c' path h
    cases h
    exact Int.le_refl _

theorem entry_of_lt (h : j < k) : Entry cost k j (-1) :=
  .inl ⟨rfl, fun _ _ => not_climb_of_lt h⟩

theorem entry_start : ∀ j, Entry cost 0 j (if j = 0 then 0 else -1)
  | 0 => .inr ⟨Int.le_refl _, cheapest_start⟩
  | _ + 1 => .inl ⟨rfl, fun _ _ h => nomatch h⟩

theorem best_none (h : j ≤ k) : Best cost k j (-1, -1) :=
  .inl ⟨rfl, fun _ hi _ _ => not_climb_of_lt (Nat.lt_of_lt_of_le hi h)⟩

theorem Least.extend {i : Nat} (h : Least cost k j c i)
    (hj : ∀ c' path, Climb cost k j c' path → c ≤ c') : Least cost k (j + 1) c i where
  lt := Nat.lt_succ_of_lt h.lt
  cheapest := h.cheapest
  le := by
    intro i' hi' c' path hclimb
    by_cases heq : i' = j
    · subst heq
      exact hj c' path hclimb
    · exact h.le i' (by omega) c' path hclimb

theorem best_next {best : Int × Int} (h : Best cost k j best) (he : Entry cost k j e) :
    Best cost k (j + 1) (nearer best e j) := by
  unfold nearer
  rcases he with ⟨rfl, hnone⟩ | ⟨hpos, hcheap⟩
  · rw [if_neg (by omega)]
    rcases h with ⟨hbest, hbelow⟩ | ⟨hbest, i, hi, hleast⟩
    · refine .inl ⟨hbest, fun i hi => ?_⟩
      by_cases heq : i = j
      · subst heq
        exact hnone
      · exact hbelow i (by omega)
    · exact .inr ⟨hbest, i, hi, hleast.extend fun c' path hclimb => absurd hclimb (hnone c' path)⟩
  · by_cases hnearer : best.1 < 0 ∨ e < best.1
    · rw [if_pos ⟨hpos, hnearer⟩]
      refine .inr ⟨hpos, j, rfl, Nat.lt_succ_self j, hcheap, fun i' hi' c' path hclimb => ?_⟩
      by_cases heq : i' = j
      · subst heq
        exact hcheap.le c' path hclimb
      · rcases h with ⟨-, hbelow⟩ | ⟨hbest, i, -, hleast⟩
        · exact absurd hclimb (hbelow i' (by omega) c' path)
        · have hle := hleast.le i' (by omega) c' path hclimb
          omega
    · rw [if_neg fun hif => hnearer hif.2]
      rcases h with ⟨hbest, -⟩ | ⟨hbest, i, hi, hleast⟩
      · omega
      · refine .inr ⟨hbest, i, hi, hleast.extend fun c' path hclimb => ?_⟩
        have hle := hcheap.le c' path hclimb
        omega

/-- Above place `k` the choice has been made. -/
theorem Best.found {best : Int × Int} (h : Best cost k j best) (hlt : k < j) :
    0 ≤ best.1 ∧ ∃ i : Nat, best.2 = i ∧ Least cost k j best.1 i := by
  rcases h with ⟨-, hnone⟩ | hfound
  · obtain ⟨c, path, hclimb⟩ := climb_all cost k
    exact absurd hclimb (hnone k hlt c path)
  · exact hfound

theorem Least.step (h : Least cost k j c i) : Cheapest cost (k + 1) j (c + cost (k + 1) j) where
  reached := by
    obtain ⟨path, hpath⟩ := h.cheapest.reached
    exact ⟨_, hpath.step h.lt⟩
  le := by
    intro c' path hclimb
    cases hclimb with
    | step hbefore hlt =>
      have hle := h.le _ hlt _ _ hbefore
      omega

/-! ## The places of a climb -/

/-- What the steps of a climb cost, its places from the last to the first. -/
def total (cost : Nat → Nat → Int) : List Nat → Int
  | [] => 0
  | [_] => 0
  | j :: i :: path => total cost (i :: path) + cost (path.length + 1) j

theorem Climb.length (h : Climb cost k j c path) : path.length = k + 1 := by
  induction h with
  | start => rfl
  | step _ _ ih => rw [List.length_cons, ih]

theorem Climb.getLast (h : Climb cost k j c path) : path.getLast? = some 0 := by
  induction h with
  | start => rfl
  | step hbefore _ ih => rw [List.getLast?_cons, ih]; rfl

theorem Climb.cost_eq (h : Climb cost k j c path) : c = total cost path := by
  induction h with
  | start => rfl
  | @step k i j c path hbefore hlt ih =>
    cases path with
    | nil => cases hbefore
    | cons i' path =>
      have hlength := hbefore.length
      rw [List.length_cons] at hlength
      rw [total, ← ih, show path.length = k by omega]

theorem Climb.le_of_mem (h : Climb cost k j c path) : ∀ i ∈ path, i ≤ j := by
  induction h with
  | start => simp
  | step _ hlt ih =>
    intro i hi
    rcases List.mem_cons.1 hi with rfl | hi
    · exact Nat.le_refl _
    · have hle := ih i hi
      omega

theorem Climb.pairwise (h : Climb cost k j c path) : path.Pairwise (· > ·) := by
  induction h with
  | start => exact List.pairwise_singleton _ _
  | step hbefore hlt ih =>
    refine List.pairwise_cons.2 ⟨fun i hi => ?_, ih⟩
    have hle := hbefore.le_of_mem i hi
    omega

theorem climb_of_pairwise (cost : Nat → Nat → Int) (hpath : (j :: path).Pairwise (· > ·))
    (hlast : (j :: path).getLast? = some 0) :
    Climb cost path.length j (total cost (j :: path)) (j :: path) := by
  induction path generalizing j with
  | nil =>
    cases hlast
    exact .start
  | cons i path ih =>
    obtain ⟨hj, hrest⟩ := List.pairwise_cons.1 hpath
    rw [List.getLast?_cons_cons] at hlast
    exact (ih hrest hlast).step (hj i List.mem_cons_self)

/-- A climb costs at most what its steps may cost. -/
theorem Climb.cost_le (h : Climb cost k j c path) (bound : Int)
    (hcost : ∀ k' i, 1 ≤ k' → k' ≤ k → i ≤ j → cost k' i ≤ bound) : c ≤ k * bound := by
  induction h with
  | start => simp
  | @step k i j c path hbefore hlt ih =>
    have hc := ih fun k' i' hpos hk' hi' => hcost k' i' hpos (by omega) (by omega)
    have hstep := hcost (k + 1) j (by omega) (Nat.le_refl _) (Nat.le_refl _)
    rw [Nat.cast_succ, Int.add_mul, Int.one_mul]
    omega

end AutomationTool.Climbing
