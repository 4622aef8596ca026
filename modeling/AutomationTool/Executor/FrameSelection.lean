import AutomationTool.Core.Climb
import AutomationTool.Core.Failing
import AutomationTool.Editing.Timeline

/-!
# Frames spread evenly over a video

Of more timestamps than may be kept, the first, the last and those between them nearest to
evenly spaced positions are kept. A dynamic program over the positions finds them: its row
for a position holds, for each index, the least total distance with that index there.

The rows are arrays of 64-bit integers and the parents arrays of 32-bit integers; storing a
number that does not fit raises, and so does reading or writing past the end.

* `globallyUniformIndices_cases`: every run ends in a selection whose total distance is least,
  or with a number that does not fit; no assertion fails.
* `globallyUniformIndices_spec`: for the limits and durations in use every number fits.
-/
namespace AutomationTool.Executor.FrameSelection

open Climbing Editing

inductive Failure
  | assertion
  | index
  | overflow
  deriving DecidableEq

/-- `xs[index]` -/
def load (xs : List Int) (index : Nat) : Except Failure Int :=
  match xs[index]? with
  | some x => .ok x
  | none => .error .index

/-- `xs[index] = x` in an array of signed integers below `2 ^ bits`. -/
def store (bits : Nat) (xs : List Int) (index : Nat) (x : Int) : Except Failure (List Int) :=
  if xs.length ≤ index then .error .index
  else if -2 ^ bits ≤ x ∧ x < 2 ^ bits then .ok (xs.set index x)
  else .error .overflow

structure Row where
  /-- `best_previous_cost` and `best_previous_index` -/
  best : Int × Int
  currentCosts : List Int
  parents : List Int

/-- One turn of the loop over the candidates.
mirrors adaptive_frame_extraction.py:463-478 -/
def visit (timestamps : List Int) (targetDenominator targetNumerator : Int)
    (previousCosts : List Int) (candidateIndex : Nat) (row : Row) : Except Failure Row := do
  let previousIndex := candidateIndex - 1
  let previousCost ← load previousCosts previousIndex
  let best := nearer row.best previousCost previousIndex
  if best.1 < 0 then .error .assertion
  else
    let timestamp ← load timestamps candidateIndex
    let distance := |timestamp * targetDenominator - targetNumerator|
    let currentCosts ← store 63 row.currentCosts candidateIndex (best.1 + distance)
    let parents ← store 31 row.parents candidateIndex best.2
    .ok ⟨best, currentCosts, parents⟩

structure Costs where
  previousCosts : List Int
  parentRows : List (List Int)

/-- One turn of the loop over the positions.
mirrors adaptive_frame_extraction.py:456-481 -/
def advance (timestamps : List Int) (limit : Nat) (first timeSpan : Int) (position : Nat)
    (costs : Costs) : Except Failure Costs := do
  let targetDenominator : Int := limit - 1
  let targetNumerator := first * targetDenominator + timeSpan * position
  let unset := List.replicate timestamps.length (-1)
  let row ← forRange (visit timestamps targetDenominator targetNumerator costs.previousCosts)
    position (timestamps.length - limit + 1) ⟨(-1, -1), unset, unset⟩
  .ok ⟨row.currentCosts, costs.parentRows ++ [row.parents]⟩

/-- One turn of the loop over the last internal index: `final_cost` and
`final_internal_index`. -/
def chooseFinal (previousCosts : List Int) (candidateIndex : Nat) (final : Int × Int) :
    Except Failure (Int × Int) := do
  let candidateCost ← load previousCosts candidateIndex
  .ok (nearer final candidateCost candidateIndex)

/-- The selected indices from the last parent on, the rows from the last to the first; the
source appends to the list and reverses it at the end. -/
def trace : List (List Int) → Nat → List Nat → Except Failure (List Nat)
  | [], index, selected => .ok (index :: selected)
  | parents :: rows, index, selected => do
    let parentIndex ← load parents index
    if parentIndex < 0 then .error .assertion
    else trace rows parentIndex.toNat (index :: selected)

/-- mirrors adaptive_frame_extraction.py:446-499 -/
def globallyUniformIndices (timestamps : List Int) (limit : Nat) : Except Failure (List Nat) :=
  if limit = 2 then .ok [0, timestamps.length - 1]
  else do
    let first ← load timestamps 0
    let last ← load timestamps (timestamps.length - 1)
    let timeSpan := last - first
    let unset := List.replicate timestamps.length (-1)
    let previousCosts ← store 63 unset 0 0
    let costs ← forRange (advance timestamps limit first timeSpan) 1 (limit - 2)
      ⟨previousCosts, []⟩
    let final ← forRange (chooseFinal costs.previousCosts) (limit - 2)
      (timestamps.length - 1 - (limit - 2)) (-1, -1)
    if final.2 < 0 then .error .assertion
    else
      let selected ← trace (costs.parentRows.drop 1).reverse final.2.toNat
        [timestamps.length - 1]
      .ok (0 :: selected)

/-- mirrors adaptive_frame_extraction.py:399-408 -/
def frameLimit (durationMs : Nat) : Nat :=
  if durationMs ≤ 15000 then 6
  else if durationMs ≤ 60000 then 12
  else if durationMs ≤ 300000 then 24
  else if durationMs ≤ 1200000 then 40
  else 60

/-! ## What is looked for -/

/-- The last timestamp less the first. -/
def span (timestamps : List Int) : Int :=
  timestamps.getD (timestamps.length - 1) 0 - timestamps.getD 0 0

/-- How far a timestamp is from the ideal of a position, both times `limit - 1`. -/
def deviation (timestamps : List Int) (limit position index : Nat) : Int :=
  |timestamps.getD index 0 * (limit - 1 : Int) -
    (timestamps.getD 0 0 * (limit - 1 : Int) + span timestamps * position)|

/-- `limit` indices that begin with the first and end with the last. -/
structure Selection (timestamps : List Int) (limit : Nat) (selected : List Nat) : Prop where
  length : selected.length = limit
  increasing : selected.Pairwise (· < ·)
  head : selected.head? = some 0
  last : selected.getLast? = some (timestamps.length - 1)

/-- The total distance of the internal timestamps from their positions. -/
def distance (timestamps : List Int) (limit : Nat) (selected : List Nat) : Int :=
  ((List.range' 1 (limit - 2)).map fun position =>
    deviation timestamps limit position (selected.getD position 0)).sum

structure Optimal (timestamps : List Int) (limit : Nat) (selected : List Nat) : Prop
    extends Selection timestamps limit selected where
  least : ∀ other, Selection timestamps limit other →
    distance timestamps limit selected ≤ distance timestamps limit other

/-- A number of the program does not fit: a cost, or the index of a parent. -/
def Overflows (timestamps : List Int) (limit : Nat) : Prop :=
  (∃ position index c, 1 ≤ position ∧ position ≤ limit - 2 ∧ index < timestamps.length ∧
    Cheapest (deviation timestamps limit) position index c ∧ 2 ^ 63 ≤ c) ∨
  2 ^ 31 < timestamps.length

/-! ## Arrays -/

section

variable {xs ys : List Int} {bits index : Nat} {x : Int}

theorem load_of_lt (h : index < xs.length) : load xs index = .ok (xs.getD index 0) := by
  simp [load, List.getD, List.getElem?_eq_getElem h]

theorem load_of_getElem? (h : xs[index]? = some x) : load xs index = .ok x := by
  rw [load, h]

theorem store_fits (h : index < xs.length) (hx : 0 ≤ x) (hfits : x < 2 ^ bits) :
    store bits xs index x = .ok (xs.set index x) := by
  have hpow : (0 : Int) ≤ 2 ^ bits := pow_nonneg (by decide) bits
  rw [store, if_neg (by omega), if_pos ⟨by omega, hfits⟩]

theorem store_overflows (h : index < xs.length) (hx : ¬x < 2 ^ bits) :
    store bits xs index x = .error .overflow := by
  rw [store, if_neg (by omega), if_neg fun hif => hx hif.2]

end

/-! ## The rows -/

section

variable {timestamps : List Int} {limit : Nat}

/-- A row for `position`: right at every index the next row reads. -/
structure RowAt (timestamps : List Int) (limit position : Nat) (costs : List Int) : Prop where
  length : costs.length = timestamps.length
  entry : ∀ j, j + limit ≤ timestamps.length + position → ∃ e < 2 ^ 63, costs[j]? = some e ∧
    Entry (deviation timestamps limit) position j e

/-- A parent on a cheapest climb. -/
def ParentAt (timestamps : List Int) (limit position j : Nat) (parents : List Int) : Prop :=
  ∃ (i : Nat) (c : Int), parents[j]? = some (i : Int) ∧ i < j ∧
    Cheapest (deviation timestamps limit) (position - 1) i c ∧
    Cheapest (deviation timestamps limit) position j (c + deviation timestamps limit position j)

def ParentsAt (timestamps : List Int) (limit position : Nat) (parents : List Int) : Prop :=
  ∀ j, position ≤ j → j + limit ≤ timestamps.length + position →
    ParentAt timestamps limit position j parents

/-- The rows of the parents from `position` down to the second. -/
inductive RowsDown (timestamps : List Int) (limit : Nat) : Nat → List (List Int) → Prop
  | first : RowsDown timestamps limit 1 []
  | next {position : Nat} {parents : List Int} {rows : List (List Int)} :
      ParentsAt timestamps limit (position + 1) parents → RowsDown timestamps limit position rows →
      RowsDown timestamps limit (position + 1) (parents :: rows)

/-- A row while its loop is at `q`. -/
structure Building (timestamps : List Int) (limit position q : Nat) (row : Row) : Prop where
  best : Best (deviation timestamps limit) (position - 1) (q - 1) row.best
  costsLength : row.currentCosts.length = timestamps.length
  parentsLength : row.parents.length = timestamps.length
  entry : ∀ j < q, j < timestamps.length → ∃ e < 2 ^ 63, row.currentCosts[j]? = some e ∧
    Entry (deviation timestamps limit) position j e
  parent : ∀ j, position ≤ j → j < q → ParentAt timestamps limit position j row.parents

theorem deviation_nonneg (timestamps : List Int) (limit position index : Nat) :
    0 ≤ deviation timestamps limit position index :=
  abs_nonneg _

theorem visit_building {position q : Nat} {previousCosts : List Int} {row : Row}
    (hpos : 1 ≤ position) (hlimit : position ≤ limit - 2) (hq : position ≤ q)
    (hend : q + limit ≤ timestamps.length + position)
    (hprevious : RowAt timestamps limit (position - 1) previousCosts)
    (h : Building timestamps limit position q row) :
    Meets (Building timestamps limit position (q + 1)) (fun e => e = .overflow ∧
      Overflows timestamps limit) (visit timestamps (limit - 1 : Int)
        (timestamps.getD 0 0 * (limit - 1 : Int) + span timestamps * position) previousCosts q
        row) := by
  obtain ⟨e, -, hget, he⟩ := hprevious.entry (q - 1) (by omega)
  have hlt : q < timestamps.length := by omega
  have hbest := best_next h.best he
  rw [show q - 1 + 1 = q by omega] at hbest
  obtain ⟨hnonneg, i, hi, hleast⟩ := hbest.found (by omega)
  have hcheapest := hleast.step
  rw [show position - 1 + 1 = position by omega] at hcheapest
  have hdev := deviation_nonneg timestamps limit position q
  have hcost : |timestamps.getD q 0 * (limit - 1 : Int) - (timestamps.getD 0 0 *
      (limit - 1 : Int) + span timestamps * position)| = deviation timestamps limit position q :=
    rfl
  simp only [visit, load_of_getElem? hget, load_of_lt hlt, hcost, bind, Except.bind,
    if_neg (Int.not_lt.2 hnonneg)]
  have hcosts : q < row.currentCosts.length := by rw [h.costsLength]; exact hlt
  have hparents : q < row.parents.length := by rw [h.parentsLength]; exact hlt
  by_cases hfits : (nearer row.best e (q - 1)).1 + deviation timestamps limit position q < 2 ^ 63
  · rw [store_fits hcosts (by omega) hfits]
    by_cases hindex : (i : Int) < 2 ^ 31
    · simp only [hi]
      rw [store_fits hparents (by omega) hindex]
      refine ⟨by simpa [hi] using hbest, by simp [h.costsLength], by simp [h.parentsLength], ?_, ?_⟩
      · intro j hj hjlt
        by_cases heq : j = q
        · subst heq
          exact ⟨_, hfits, by simp [h.costsLength, hlt], .inr ⟨by omega, hcheapest⟩⟩
        · obtain ⟨e', hlt', hget', he'⟩ := h.entry j (by omega) hjlt
          exact ⟨e', hlt', by rw [List.getElem?_set_ne (by omega)]; exact hget', he'⟩
      · intro j hle hj
        by_cases heq : j = q
        · subst heq
          exact ⟨i, _, by simp [h.parentsLength, hlt], hleast.lt, hleast.cheapest, hcheapest⟩
        · obtain ⟨i', c', hget', hrest⟩ := h.parent j hle (by omega)
          exact ⟨i', c', by rw [List.getElem?_set_ne (by omega)]; exact hget', hrest⟩
    · simp only [hi]
      rw [store_overflows hparents hindex]
      have hbelow := hleast.lt
      exact ⟨rfl, .inr (by omega)⟩
  · rw [store_overflows hcosts hfits]
    exact ⟨rfl, .inl ⟨position, q, _, hpos, hlimit, hlt, hcheapest, by omega⟩⟩

theorem building_start (position : Nat) (best : Int × Int) (hbest : best = (-1, -1)) :
    Building timestamps limit position position ⟨best, List.replicate timestamps.length (-1),
      List.replicate timestamps.length (-1)⟩ where
  best := by
    rw [hbest]
    exact best_none (Nat.le_refl _)
  costsLength := List.length_replicate
  parentsLength := List.length_replicate
  entry := by
    intro j hj hlt
    exact ⟨-1, by decide, by simp [hlt], entry_of_lt hj⟩
  parent := by
    intro j hle hlt
    omega

/-- What is known while the loop over the positions is at `position`. -/
structure Climbed (timestamps : List Int) (limit position : Nat) (costs : Costs) : Prop where
  row : RowAt timestamps limit (position - 1) costs.previousCosts
  none : position = 1 → costs.parentRows = []
  rows : 2 ≤ position → costs.parentRows ≠ [] ∧
    RowsDown timestamps limit (position - 1) (costs.parentRows.drop 1).reverse

theorem advance_climbed {position : Nat} {costs : Costs} (hlimit : 3 ≤ limit)
    (hlong : limit < timestamps.length) (hpos : 1 ≤ position) (hle : position ≤ limit - 2)
    (h : Climbed timestamps limit position costs) :
    Meets (Climbed timestamps limit (position + 1)) (fun e => e = .overflow ∧
      Overflows timestamps limit) (advance timestamps limit (timestamps.getD 0 0)
        (span timestamps) position costs) := by
  have hloop := forRange_meets (Building timestamps limit position) _ position
    (timestamps.length - limit + 1) (building_start position (-1, -1) rfl)
    fun q row hq hend hrow => visit_building hpos hle hq (by omega) h.row hrow
  refine hloop.bind fun row hrow => ?_
  have hend : position + (timestamps.length - limit + 1) = timestamps.length - limit + position + 1 := by
    omega
  rw [hend] at hrow
  refine ⟨⟨hrow.costsLength, fun j hj => hrow.entry j (by omega) (by omega)⟩,
    fun hone => by omega, fun _ => ⟨by simp, ?_⟩⟩
  have hparents : ParentsAt timestamps limit position row.parents :=
    fun j hle hj => hrow.parent j hle (by omega)
  show RowsDown timestamps limit position
    ((costs.parentRows ++ [row.parents]).drop 1).reverse
  by_cases hone : position = 1
  · rw [h.none hone, hone]
    exact .first
  · obtain ⟨hne, hrows⟩ := h.rows (by omega)
    rw [List.drop_append_of_le_length (List.length_pos_iff.2 hne), List.reverse_append]
    obtain ⟨p, rfl⟩ : ∃ p, position = p + 1 := ⟨position - 1, by omega⟩
    exact .next hparents hrows

theorem chooseFinal_best {k q : Nat} {costs : List Int} {final : Int × Int}
    (hrow : RowAt timestamps limit k costs) (hq : q + limit ≤ timestamps.length + k)
    (h : Best (deviation timestamps limit) k q final) {bad : Failure → Prop} :
    Meets (Best (deviation timestamps limit) k (q + 1)) bad (chooseFinal costs q final) := by
  obtain ⟨e, -, hget, he⟩ := hrow.entry q hq
  simp only [chooseFinal, load_of_getElem? hget, bind, Except.bind]
  exact best_next h he

/-- The parents lead down a cheapest climb. -/
theorem trace_climb {position j : Nat} {rows : List (List Int)} {c : Int}
    (hrows : RowsDown timestamps limit position rows)
    (hc : Cheapest (deviation timestamps limit) position j c)
    (hj : j + limit ≤ timestamps.length + position) (selected : List Nat) :
    ∃ path traced, Climb (deviation timestamps limit) position j c path ∧
      trace rows j selected = .ok traced ∧ 0 :: traced = path.reverse ++ selected := by
  induction hrows generalizing j c selected with
  | first =>
    obtain ⟨path, hpath⟩ := hc.reached
    refine ⟨path, j :: selected, hpath, rfl, ?_⟩
    cases hpath with
    | step hbefore _ =>
      cases hbefore
      rfl
  | @next position parents rows hparents hrows ih =>
    obtain ⟨path, hpath⟩ := hc.reached
    obtain ⟨i, c', hget, hij, hi, hij'⟩ := hparents j hpath.le hj
    obtain ⟨path', traced, hclimb, htrace, heq⟩ := ih hi (by omega) (j :: selected)
    have hstep := hclimb.step hij
    have hsame : c = c' + deviation timestamps limit (position + 1) j :=
      Int.le_antisymm (hc.le _ _ hstep) (hij'.le _ _ hpath)
    refine ⟨j :: path', traced, hsame ▸ hstep, ?_, by rw [heq]; simp⟩
    simp only [trace, load_of_getElem? hget, bind, Except.bind]
    rw [if_neg (by omega), Int.toNat_natCast]
    exact htrace

/-! ## Selections as climbs -/

theorem total_eq (cost : Nat → Nat → Int) (path : List Nat) :
    total cost path = ((List.range' 1 (path.length - 1)).map fun k =>
      cost k (path.reverse.getD k 0)).sum := by
  induction path with
  | nil => rfl
  | cons j path ih =>
    cases path with
    | nil => rfl
    | cons i path =>
      rw [total, ih]
      simp only [List.length_cons, Nat.add_sub_cancel]
      rw [List.range'_concat, List.map_append, List.sum_append]
      congr 1
      · refine congrArg List.sum (List.map_congr_left fun k hk => ?_)
        have hlt : k < path.length + 1 := by
          have hmem := List.mem_range'_1.1 hk
          omega
        rw [List.reverse_cons (a := j)]
        simp only [List.getD]
        rw [List.getElem?_append_left (by simpa using hlt)]
      · simp only [List.map_cons, List.map_nil, List.sum_cons, List.sum_nil, List.getD]
        rw [List.reverse_cons (a := j), List.getElem?_append_right (by grind)]
        simp [Nat.add_comm]

/-- The total distance of a climb with the last index behind it. -/
theorem distance_of_path (timestamps : List Int) (last : Nat) {path : List Nat} (h : path.length = limit - 1)
    (hlimit : 3 ≤ limit) :
    distance timestamps limit (path.reverse ++ [last]) = total (deviation timestamps limit) path := by
  rw [total_eq, distance, h, show limit - 1 - 1 = limit - 2 by omega]
  refine congrArg List.sum (List.map_congr_left fun k hk => ?_)
  have hmem := List.mem_range'_1.1 hk
  simp only [List.getD]
  rw [List.getElem?_append_left (by rw [List.length_reverse]; omega)]

theorem Selection.climb {selected : List Nat} (h : Selection timestamps limit selected)
    (hlimit : 3 ≤ limit) :
    ∃ j path, j < timestamps.length - 1 ∧ Climb (deviation timestamps limit) (limit - 2) j
      (distance timestamps limit selected) path := by
  obtain ⟨front, rfl⟩ := List.getLast?_eq_some_iff.1 h.last
  have hlength := h.length
  rw [List.length_append, List.length_singleton] at hlength
  obtain ⟨hfront, -, hbelow⟩ := List.pairwise_append.1 h.increasing
  have hreverse : front.reverse.Pairwise (· > ·) := List.pairwise_reverse.2 hfront
  have hlast : front.reverse.getLast? = some 0 := by
    have hhead := h.head
    rw [List.getLast?_reverse]
    cases front with
    | nil => simp at hlength; omega
    | cons first rest => exact hhead
  have hreverselength : front.reverse.length = limit - 1 := by
    rw [List.length_reverse]
    omega
  cases hpath : front.reverse with
  | nil => rw [hpath] at hlast; cases hlast
  | cons j path =>
    have hmem : j ∈ front := by
      rw [← List.mem_reverse, hpath]
      exact List.mem_cons_self
    have hdistance := distance_of_path timestamps (timestamps.length - 1) hreverselength hlimit
    rw [List.reverse_reverse, hpath] at hdistance
    rw [hpath] at hreverse hlast hreverselength
    refine ⟨j, j :: path, hbelow j hmem _ (List.mem_singleton_self _), ?_⟩
    have hclimb := climb_of_pairwise (deviation timestamps limit) hreverse hlast
    rw [List.length_cons] at hreverselength
    rwa [hdistance, show limit - 2 = path.length by omega]

theorem selection_of_climb {j : Nat} {c : Int} {path : List Nat} (hlimit : 3 ≤ limit)
    (h : Climb (deviation timestamps limit) (limit - 2) j c path)
    (hj : j < timestamps.length - 1) :
    Selection timestamps limit (path.reverse ++ [timestamps.length - 1]) where
  length := by
    rw [List.length_append, List.length_reverse, h.length, List.length_singleton]
    omega
  increasing := by
    refine List.pairwise_append.2 ⟨List.pairwise_reverse.2 h.pairwise,
      List.pairwise_singleton _ _, fun i hi last hlast => ?_⟩
    have hle := h.le_of_mem i (List.mem_reverse.1 hi)
    rw [List.mem_singleton.1 hlast]
    omega
  head := by
    rw [List.head?_append, List.head?_reverse, h.getLast]
    rfl
  last := by rw [List.getLast?_append]; rfl

/-! ## Every run -/

theorem start_climbed (hlimit : 3 ≤ limit) :
    Climbed timestamps limit 1 ⟨(List.replicate timestamps.length (-1)).set 0 0, []⟩ where
  row := by
    refine ⟨by simp, fun j hj => ⟨if j = 0 then 0 else -1, ?_, ?_, entry_start j⟩⟩
    · split <;> decide
    · have hlt : j < timestamps.length := by omega
      by_cases hzero : j = 0
      · subst hzero
        simp [hlt]
      · rw [List.getElem?_set_ne (Ne.symm hzero), if_neg hzero]
        simp [hlt]
  none := fun _ => rfl
  rows := fun h => by omega

/-- **Every run.** It returns the indices whose total distance is least, and that distance
fits; or a number does not fit. No assertion fails and no index is out of range. -/
theorem globallyUniformIndices_cases (hlimit : 3 ≤ limit) (hlong : limit < timestamps.length) :
    Meets (fun selected => Optimal timestamps limit selected ∧
        distance timestamps limit selected < 2 ^ 63)
      (fun e => e = .overflow ∧ Overflows timestamps limit)
      (globallyUniformIndices timestamps limit) := by
  have hzero : 0 < timestamps.length := by omega
  have hlast : timestamps.length - 1 < timestamps.length := by omega
  rw [globallyUniformIndices, if_neg (by omega), load_of_lt hzero, load_of_lt hlast]
  simp only [bind, Except.bind]
  rw [store_fits (by simpa using hzero) (Int.le_refl 0) (by decide)]
  have hpositions := forRange_meets (Climbed timestamps limit) _ 1 (limit - 2)
    (start_climbed hlimit) fun position costs hpos hend hcosts =>
      advance_climbed hlimit hlong hpos (by omega) hcosts
  refine hpositions.bind fun costs hcosts => ?_
  have hk : 1 + (limit - 2) - 1 = limit - 2 := by omega
  have hrow := hcosts.row
  have hrows := (hcosts.rows (by omega)).2
  rw [hk] at hrow hrows
  have hfinals := forRange_meets (Best (deviation timestamps limit) (limit - 2))
    (fun e => e = Failure.overflow ∧ Overflows timestamps limit) (limit - 2)
    (timestamps.length - 1 - (limit - 2)) (best_none (Nat.le_refl _))
    fun q final hq hend hfinal => chooseFinal_best hrow (by omega) hfinal
  refine hfinals.bind fun final hfinal => ?_
  rw [show limit - 2 + (timestamps.length - 1 - (limit - 2)) = timestamps.length - 1 by omega]
    at hfinal
  obtain ⟨-, i, hi, hleast⟩ := hfinal.found (by omega)
  have hbelow := hleast.lt
  obtain ⟨path, traced, hclimb, htrace, heq⟩ := trace_climb hrows hleast.cheapest (by omega)
    [timestamps.length - 1]
  rw [hi, if_neg (by omega), Int.toNat_natCast, htrace]
  show Optimal timestamps limit (0 :: traced) ∧ distance timestamps limit (0 :: traced) < 2 ^ 63
  have hlength := hclimb.length
  have hdistance : distance timestamps limit (path.reverse ++ [timestamps.length - 1]) = final.1 := by
    rw [distance_of_path timestamps _ (by omega) hlimit]
    exact hclimb.cost_eq.symm
  rw [heq, hdistance]
  refine ⟨⟨selection_of_climb hlimit hclimb hbelow, fun other hother => ?_⟩, ?_⟩
  · obtain ⟨j, path', hj, hclimb'⟩ := hother.climb hlimit
    rw [hdistance]
    exact hleast.le j hj _ _ hclimb'
  · obtain ⟨e, hlt, -, hnone | ⟨-, hcheap⟩⟩ := hrow.entry i (by omega)
    · exact absurd hclimb (hnone.2 _ _)
    · obtain ⟨path', hpath'⟩ := hcheap.reached
      exact Int.lt_of_le_of_lt (hleast.cheapest.le _ _ hpath') hlt

/-! ## The numbers that occur -/

theorem getD_le_getD (h : timestamps.Pairwise (· < ·)) {i j : Nat} (hij : i ≤ j)
    (hj : j < timestamps.length) : timestamps.getD i 0 + (j - i : Int) ≤ timestamps.getD j 0 := by
  induction j, hij using Nat.le_induction with
  | base => omega
  | succ j hij ih =>
    have hprevious := ih (by omega)
    have hnext := List.pairwise_iff_getElem.1 h j (j + 1) (by omega) hj (by omega)
    have hthis : timestamps.getD j 0 < timestamps.getD (j + 1) 0 := by
      simpa [List.getD, List.getElem?_eq_getElem, hj, show j < timestamps.length by omega] using hnext
    push_cast
    omega

theorem length_le_span (h : timestamps.Pairwise (· < ·)) (hne : timestamps ≠ []) :
    (timestamps.length : Int) ≤ span timestamps + 1 := by
  have hpos := List.length_pos_iff.2 hne
  have hle := getD_le_getD h (Nat.zero_le (timestamps.length - 1)) (by omega)
  unfold span
  omega

theorem deviation_le (h : timestamps.Pairwise (· < ·)) {position index : Nat}
    (hindex : index < timestamps.length) (hposition : position + 1 ≤ limit) :
    deviation timestamps limit position index ≤ span timestamps * (limit - 1 : Int) := by
  have hlow := getD_le_getD h (Nat.zero_le index) hindex
  have hhigh := getD_le_getD h (show index ≤ timestamps.length - 1 by omega) (by omega)
  have hspan : timestamps.getD index 0 - timestamps.getD 0 0 ≤ span timestamps := by
    unfold span
    omega
  have hnonneg : 0 ≤ timestamps.getD index 0 - timestamps.getD 0 0 := by omega
  have hsteps : (0 : Int) ≤ (limit : Int) - 1 := by omega
  have hinner : (position : Int) ≤ (limit : Int) - 1 := by omega
  have htime := Int.mul_le_mul_of_nonneg_right hspan hsteps
  have htime' := Int.mul_nonneg hnonneg hsteps
  have htarget := Int.mul_le_mul_of_nonneg_left hinner (show 0 ≤ span timestamps by omega)
  have htarget' := Int.mul_nonneg (show 0 ≤ span timestamps by omega) (Int.natCast_nonneg position)
  have hsplit : timestamps.getD index 0 * (limit - 1 : Int) - (timestamps.getD 0 0 *
      (limit - 1 : Int) + span timestamps * position) =
      (timestamps.getD index 0 - timestamps.getD 0 0) * (limit - 1 : Int) -
        span timestamps * position := by ring
  unfold deviation
  rw [hsplit]
  exact abs_le.2 ⟨by omega, by omega⟩

/-- Every number fits when the span times the numbers of gaps and of positions does. -/
theorem not_overflows (h : timestamps.Pairwise (· < ·)) (hlimit : 3 ≤ limit)
    (hlong : limit < timestamps.length) (hspan : span timestamps < 2 ^ 31)
    (hcost : span timestamps * (limit - 1 : Int) * (limit - 2 : Int) < 2 ^ 63) :
    ¬Overflows timestamps limit := by
  have hlength := length_le_span h (List.ne_nil_of_length_pos (by omega))
  rintro (⟨position, index, c, hpos, hle, hindex, hcheap, hbig⟩ | hlarge)
  · obtain ⟨path, hpath⟩ := hcheap.reached
    have hc := hpath.cost_le (span timestamps * (limit - 1 : Int))
      fun k i _ hk hi => deviation_le h (Nat.lt_of_le_of_lt hi hindex) (by omega)
    have hnonneg : 0 ≤ span timestamps * (limit - 1 : Int) :=
      Int.mul_nonneg (by omega) (by omega)
    have hsteps := Int.mul_le_mul_of_nonneg_right
      (show (position : Int) ≤ (limit : Int) - 2 by omega) hnonneg
    rw [Int.mul_comm ((limit : Int) - 2)] at hsteps
    omega
  · omega

theorem frameLimit_le (durationMs : Nat) : frameLimit durationMs ≤ 60 := by
  unfold frameLimit
  repeat' split
  all_goals omega

/-- A limit in use and a video as long as may be. -/
theorem not_overflows_of_frameLimit (h : timestamps.Pairwise (· < ·)) (hlimit : 3 ≤ limit)
    (hlong : limit < timestamps.length) {durationMs : Nat}
    (hduration : durationMs ≤ maxMaterialDurationMs) (hframes : limit ≤ frameLimit durationMs)
    (hspan : span timestamps ≤ durationMs) : ¬Overflows timestamps limit := by
  have hsixty := Nat.le_trans hframes (frameLimit_le durationMs)
  have hmax : (durationMs : Int) ≤ 14400000 := by
    exact_mod_cast hduration
  refine not_overflows h hlimit hlong (by omega) ?_
  have hgaps := Int.mul_le_mul_of_nonneg_right (show span timestamps ≤ 14400000 by omega)
    (show (0 : Int) ≤ (limit : Int) - 1 by omega)
  have hsteps := Int.mul_le_mul_of_nonneg_right hgaps (show (0 : Int) ≤ (limit : Int) - 2 by omega)
  have hproduct : (14400000 : Int) * (limit - 1 : Int) * (limit - 2 : Int) ≤ 14400000 * 59 * 58 := by
    have hfirst : (14400000 : Int) * (limit - 1 : Int) ≤ 14400000 * 59 := by omega
    exact Int.le_trans (Int.mul_le_mul_of_nonneg_right hfirst (by omega)) (by omega)
  omega

end

/-- **The selection.** For every increasing list longer than the limit: the indices returned
are `limit`, increasing, from the first to the last, and no such indices have a smaller total
distance; no assertion fails, and only a number that does not fit keeps the indices from
being returned. Every number fits for a duration that a material may have and a limit in use
for it. -/
theorem globallyUniformIndices_spec (timestamps : List Int) (limit : Nat)
    (hincreasing : timestamps.Pairwise (· < ·)) (hlimit : 3 ≤ limit)
    (hlong : limit < timestamps.length) :
    (match globallyUniformIndices timestamps limit with
      | .ok selected => Optimal timestamps limit selected
      | .error e => e = .overflow ∧ Overflows timestamps limit) ∧
    (span timestamps < 2 ^ 31 →
      span timestamps * (limit - 1 : Int) * (limit - 2 : Int) < 2 ^ 63 →
      ∃ selected, globallyUniformIndices timestamps limit = .ok selected) ∧
    ∀ durationMs ≤ maxMaterialDurationMs, limit ≤ frameLimit durationMs →
      span timestamps ≤ durationMs →
      ∃ selected, globallyUniformIndices timestamps limit = .ok selected := by
  have hcases := globallyUniformIndices_cases hlimit hlong
  cases hrun : globallyUniformIndices timestamps limit with
  | ok selected =>
    rw [hrun] at hcases
    exact ⟨hcases.1, fun _ _ => ⟨selected, rfl⟩, fun _ _ _ _ => ⟨selected, rfl⟩⟩
  | error e =>
    rw [hrun] at hcases
    obtain ⟨rfl, hoverflows⟩ := hcases
    refine ⟨⟨rfl, hoverflows⟩, fun hspan hcost => ?_, fun durationMs hduration hframes hspan => ?_⟩
    · exact absurd hoverflows (not_overflows hincreasing hlimit hlong hspan hcost)
    · exact absurd hoverflows
        (not_overflows_of_frameLimit hincreasing hlimit hlong hduration hframes hspan)

namespace Concrete

theorem five_frames :
    (match globallyUniformIndices [0, 10, 50, 90, 100] 3 with
      | .ok selected => Optimal [0, 10, 50, 90, 100] 3 selected
      | .error e => e = .overflow ∧ Overflows [0, 10, 50, 90, 100] 3) ∧
    (∃ selected, globallyUniformIndices [0, 10, 50, 90, 100] 3 = .ok selected) ∧
    globallyUniformIndices [0, 10, 50, 90, 100] 3 = .ok [0, 2, 4] := by
  obtain ⟨hcases, -, hprobed⟩ :=
    globallyUniformIndices_spec [0, 10, 50, 90, 100] 3 (by decide) (by decide) (by decide)
  exact ⟨hcases, hprobed 100 (by decide) (by decide) (by decide), by decide⟩

/-! A video of four hours with two million frames at its begin, and as many wanted. -/

/-- The first `count` milliseconds and the last one. -/
def crowded (count : Nat) (last : Int) : List Int :=
  (List.range count).map Int.ofNat ++ [last]

variable {count : Nat} {last : Int}

theorem crowded_length : (crowded count last).length = count + 1 := by
  simp [crowded]

theorem crowded_getD {j : Nat} (h : j < count) : (crowded count last).getD j 0 = j := by
  have hlt : j < ((List.range count).map Int.ofNat).length := by simpa using h
  rw [crowded, List.getD, List.getElem?_append_left hlt, List.getElem?_map, List.getElem?_range h]
  rfl

theorem crowded_span (h : 0 < count) : span (crowded count last) = last := by
  have hfirst : (crowded count last).getD 0 0 = (0 : Nat) := crowded_getD h
  have hlast : (crowded count last).getD count 0 = last := by simp [crowded, List.getD]
  rw [span, crowded_length, Nat.add_sub_cancel, hlast, hfirst]
  simp

/-- The frames are early by more at every further position. -/
theorem le_cost {k j : Nat} {c : Int} {path : List Nat} (hcount : 0 < count)
    (h : Climb (deviation (crowded count last) count) k j c path) (hj : j ≤ k + 1)
    (hk : k + 1 < count) :
    (last - (count - 1 : Int)) * (k * (k + 1)) - 2 * (count - 1 : Int) * k ≤ 2 * c := by
  induction h with
  | start => simp
  | @step k i j c path hbefore hlt ih =>
    have hbefore := ih (by omega) (by omega)
    have hfirst : (crowded count last).getD 0 0 = 0 := crowded_getD hcount
    have hstep : last * (k + 1 : Int) - (k + 2 : Int) * (count - 1 : Int) ≤
        deviation (crowded count last) count (k + 1) j := by
      have hprod := Int.mul_le_mul_of_nonneg_right (show (j : Int) ≤ (k : Int) + 2 by omega)
        (show (0 : Int) ≤ (count : Int) - 1 by omega)
      unfold deviation
      rw [crowded_span hcount, hfirst, crowded_getD (by omega), abs_sub_comm]
      refine Int.le_trans ?_ (le_abs_self _)
      push_cast
      omega
    have hsum : (last - (count - 1 : Int)) * ((k + 1 : Int) * (k + 1 + 1)) -
        2 * (count - 1 : Int) * (k + 1) = ((last - (count - 1 : Int)) * (k * (k + 1)) -
          2 * (count - 1 : Int) * k) + 2 * (last * (k + 1 : Int) - (k + 2 : Int) * (count - 1 : Int)) := by
      ring
    push_cast
    rw [hsum]
    omega

theorem crowded_refused (hcount : 3 ≤ count) (hbig : 2 ^ 64 ≤
      (last - (count - 1 : Int)) * ((count - 2 : Int) * (count - 2 + 1)) -
        2 * (count - 1 : Int) * (count - 2)) (selected : List Nat) :
    globallyUniformIndices (crowded count last) count ≠ .ok selected := by
  intro hrun
  have hcases := @globallyUniformIndices_cases (crowded count last) count hcount
    (by rw [crowded_length]; omega)
  rw [hrun] at hcases
  obtain ⟨hoptimal, hfits⟩ := hcases
  obtain ⟨j, path, hj, hclimb⟩ := hoptimal.toSelection.climb hcount
  rw [crowded_length] at hj
  have hcost := le_cost (by omega) hclimb (by omega) (by omega)
  rw [Nat.cast_sub (by omega)] at hcost
  have hle := Int.le_trans hbig hcost
  omega

theorem crowded_pairwise (h : (count : Int) ≤ last) : (crowded count last).Pairwise (· < ·) := by
  refine List.pairwise_append.2 ⟨?_, List.pairwise_singleton _ _, fun i hi j hj => ?_⟩
  · exact List.pairwise_map.2 (List.pairwise_lt_range.imp Int.ofNat_lt.2)
  · obtain ⟨n, hn, rfl⟩ := List.mem_map.1 hi
    rw [List.mem_singleton.1 hj]
    have hlt := List.mem_range.1 hn
    have hcast : Int.ofNat n = n := rfl
    omega

theorem crowded_overflows :
    ¬∀ (timestamps : List Int) (limit : Nat), timestamps.Pairwise (· < ·) → 3 ≤ limit →
      limit < timestamps.length → span timestamps ≤ maxMaterialDurationMs →
      ∃ selected, globallyUniformIndices timestamps limit = .ok selected := by
  intro hall
  have hspan : span (crowded 2000000 14400000) = 14400000 := crowded_span (by omega)
  obtain ⟨selected, hrun⟩ := hall (crowded 2000000 14400000) 2000000
    (crowded_pairwise (by decide)) (by decide) (by rw [crowded_length]; decide)
    (by rw [hspan]; decide)
  exact crowded_refused (by decide) (by decide) selected hrun

end Concrete

end AutomationTool.Executor.FrameSelection
