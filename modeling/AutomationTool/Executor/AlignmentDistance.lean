import AutomationTool.Core.EditDistance
import AutomationTool.Executor.ScriptAlignment

/-!
# The banded distances

`_levenshtein_distance` and `_bounded_extension_distances` fill a table of prefixes row by row and
leave out what lies further from the diagonal than the bound.

* `RowFrom`: the entries of a row, one for each prefix of the expected text, agree with the edit
  distance up to the bound.
* `advance_row`: one character more; `rows_spec`: all the rows.
* `distances_exact`: what the two functions return, the reversed use included.
-/
namespace AutomationTool.Executor.ScriptAlignment

variable {α : Type} [DecidableEq α]

/-- The entries of the row behind `actual`, from the prefix `before` of the expected text on. -/
def RowFrom (m : Nat) (actual : List α) : List α → List α → List Nat → Prop
  | before, [], [value] => Agrees m value (editDistance before actual)
  | before, character :: rest, value :: values =>
    Agrees m value (editDistance before actual) ∧
      RowFrom m actual (before ++ [character]) rest values
  | _, _, _ => False

theorem RowFrom.exists_cons {m : Nat} {actual before rest : List α} {values : List Nat}
    (h : RowFrom m actual before rest values) :
    ∃ value more, values = value :: more ∧ Agrees m value (editDistance before actual) := by
  cases rest with
  | nil =>
    cases values with
    | nil => exact h.elim
    | cons value more =>
      cases more with
      | nil => exact ⟨value, [], rfl, h⟩
      | cons _ _ => exact h.elim
  | cons character rest =>
    cases values with
    | nil => exact h.elim
    | cons value more => exact ⟨value, more, rfl, h.1⟩

/-- The last entry of a row is that of the whole text. -/
theorem RowFrom.last {m : Nat} {actual before rest : List α} {values : List Nat}
    (h : RowFrom m actual before rest values) :
    ∃ value, values.getLast? = some value ∧
      Agrees m value (editDistance (before ++ rest) actual) := by
  induction rest generalizing before values with
  | nil =>
    cases values with
    | nil => exact h.elim
    | cons value more =>
      cases more with
      | nil =>
        rw [List.append_nil]
        exact ⟨value, rfl, h⟩
      | cons _ _ => exact h.elim
  | cons character rest ih =>
    cases values with
    | nil => exact h.elim
    | cons value values =>
      obtain ⟨last, hlast, hagrees⟩ := ih h.2
      obtain ⟨next, more, rfl, -⟩ := h.2.exists_cons
      rw [List.append_assoc, List.singleton_append] at hagrees
      exact ⟨last, by rw [List.getLast?_cons_cons]; exact hlast, hagrees⟩

/-- A row from the one above it, behind an entry that has been computed. -/
theorem advanceFrom_row {m : Nat} {actual : List α} {character : α} {before rest : List α}
    {previous : List Nat} {left : Nat} (hprevious : RowFrom m actual before rest previous)
    (hleft : Agrees m left (editDistance before (actual ++ [character]))) :
    RowFrom m (actual ++ [character]) before rest
      (left :: advanceFrom m (actual.length + 1) character (before.length + 1) left rest
        previous) := by
  induction rest generalizing before previous left with
  | nil =>
    rw [advanceFrom]
    · exact hleft
    · intro expected more diagonal above row h
      cases h
  | cons expected rest ih =>
    obtain ⟨diagonal, above, rfl, hdiagonal⟩ := hprevious.exists_cons
    obtain ⟨above, row, rfl, habove⟩ := hprevious.2.exists_cons
    rw [advanceFrom]
    refine ⟨hleft, ?_⟩
    have hlength : (before ++ [expected]).length = before.length + 1 := by simp
    rw [← hlength]
    apply ih hprevious.2
    split
    · rw [editDistance_concat]
      simp only [ne_eq, ite_not]
      exact .step hleft habove hdiagonal
    · rename_i hout
      rw [hlength] at hout
      apply Agrees.beyond
      simp only [List.length_append, List.length_singleton]
      omega

/-- One more character. -/
theorem advance_row {m : Nat} {actual expected : List α} {previous : List Nat} (character : α)
    (h : RowFrom m actual [] expected previous) :
    RowFrom m (actual ++ [character]) [] expected
      (advance expected m previous (actual.length + 1) character) := by
  apply advanceFrom_row h
  rw [editDistance_nil_left, List.length_append, List.length_singleton]
  split
  · exact .self m _
  · constructor <;> omega

/-- The row before the first character. -/
theorem firstRow_row (m : Nat) (expected : List α) :
    RowFrom m [] [] expected (firstRow expected m) := by
  have hall : ∀ (before rest : List α), before.length + rest.length = expected.length →
      RowFrom m [] before rest ((List.range' before.length (rest.length + 1)).map fun index =>
        if index ≤ min expected.length m then index else m + 1) := by
    intro before rest h
    have hfirst : Agrees m (if before.length ≤ min expected.length m then before.length else m + 1)
        (editDistance before []) := by
      rw [editDistance_nil_right]
      split
      · exact .self m _
      · constructor <;> omega
    induction rest generalizing before with
    | nil => exact hfirst
    | cons character rest ih =>
      rw [List.length_cons] at h
      have hlength : (before ++ [character]).length = before.length + 1 := by simp
      refine ⟨hfirst, ?_⟩
      have hrest := ih (before ++ [character]) (by omega) ?_
      · rwa [hlength] at hrest
      · rw [editDistance_nil_right]
        split
        · exact .self m _
        · constructor <;> omega
  have hrow := hall [] expected (Nat.zero_add _)
  rw [firstRow, List.range_eq_range']
  exact hrow

/-- Every row of a table. -/
theorem rows_spec {m : Nat} {expected : List α} {done more : List α} {previous : List Nat}
    (h : RowFrom m done [] expected previous) :
    (rows expected m previous (done.length + 1) more).length = more.length ∧
      ∀ k row, (previous :: rows expected m previous (done.length + 1) more)[k]? = some row →
        RowFrom m (done ++ more.take k) [] expected row := by
  induction more generalizing done previous with
  | nil =>
    refine ⟨rfl, fun k row hrow => ?_⟩
    cases k with
    | zero =>
      cases hrow
      rw [List.take_zero, List.append_nil]
      exact h
    | succ k => cases hrow
  | cons character more ih =>
    have hnext := advance_row character h
    have hlength : (done ++ [character]).length + 1 = done.length + 1 + 1 := by simp
    obtain ⟨hcount, hrows⟩ := ih hnext
    rw [hlength] at hcount hrows
    refine ⟨congrArg (· + 1) hcount, fun k row hrow => ?_⟩
    cases k with
    | zero =>
      cases hrow
      rw [List.take_zero, List.append_nil]
      exact h
    | succ k =>
      have hk := hrows k row hrow
      rwa [List.append_assoc, List.singleton_append, ← List.take_succ_cons] at hk

/-- The last row of a table. -/
theorem lastRow_row (m : Nat) (expected actual : List α) :
    RowFrom m actual [] expected
      ((rows expected m (firstRow expected m) 1 actual).getLast?.getD (firstRow expected m)) := by
  obtain ⟨hcount, hrows⟩ := @rows_spec _ _ m expected [] actual _ (firstRow_row m expected)
  simp only [List.nil_append, List.length_nil, Nat.zero_add] at hcount hrows
  have hlast := hrows actual.length
    ((rows expected m (firstRow expected m) 1 actual).getLast?.getD (firstRow expected m)) ?_
  · rwa [List.take_length] at hlast
  · rw [← hcount]
    cases hempty : rows expected m (firstRow expected m) 1 actual with
    | nil => rfl
    | cons row more =>
      rw [List.length_cons, List.getElem?_cons_succ, List.getLast?_eq_getElem?]
      simp

theorem levenshteinDistance_agrees (left right : List α) (m : Nat) :
    Agrees m (levenshteinDistance left right m) (editDistance left right) := by
  have hrow (left right : List α) : Agrees m
      (((rows left m (firstRow left m) 1 right).getLast?.getD (firstRow left m)).getLast?.getD 0)
      (editDistance left right) := by
    obtain ⟨value, hvalue, hagrees⟩ := (lastRow_row m left right).last
    rw [hvalue]
    exact hagrees
  unfold levenshteinDistance
  by_cases hlonger : left.length > right.length
  · rw [if_pos hlonger, editDistance_comm]
    exact hrow right left
  · rw [if_neg hlonger]
    exact hrow left right

theorem boundedExtensionDistances_agrees (expected baseActual extension : List α) (m : Nat) :
    (boundedExtensionDistances expected baseActual extension m).length = extension.length + 1 ∧
      ∀ k value, (boundedExtensionDistances expected baseActual extension m)[k]? = some value →
        Agrees m value (editDistance expected (baseActual ++ extension.take k)) := by
  obtain ⟨hcount, hrows⟩ := @rows_spec _ _ m expected [] (baseActual ++ extension) _
    (firstRow_row m expected)
  rw [List.length_append] at hcount
  refine ⟨?_, fun k value hvalue => ?_⟩
  · rw [boundedExtensionDistances, List.length_map, List.length_drop, List.length_cons]
    rw [List.length_nil, Nat.zero_add] at hcount
    omega
  · rw [boundedExtensionDistances, List.getElem?_map, List.getElem?_drop, Option.map_eq_some_iff]
      at hvalue
    obtain ⟨row, hrow, rfl⟩ := hvalue
    have hk := hrows _ row hrow
    obtain ⟨last, hlast, hagrees⟩ := hk.last
    rw [hlast]
    rwa [List.nil_append, List.nil_append, List.take_length_add_append] at hagrees

/-- **The banded distances.** For all texts and every bound, `_levenshtein_distance` is the edit
distance where it is at most the bound, and above the bound where it is not;
`_bounded_extension_distances` has such a value for every length of the extension, and on
reversed texts such a value for every length of the extension at the front. -/
theorem distances_exact (m : Nat) :
    (∀ left right : List α, Agrees m (levenshteinDistance left right m) (editDistance left right)) ∧
    (∀ expected baseActual extension : List α,
      (boundedExtensionDistances expected baseActual extension m).length = extension.length + 1 ∧
      ∀ k value, (boundedExtensionDistances expected baseActual extension m)[k]? = some value →
        Agrees m value (editDistance expected (baseActual ++ extension.take k))) ∧
    ∀ expected baseActual extension : List α,
      ∀ k value, (boundedExtensionDistances expected.reverse baseActual.reverse extension.reverse
          m)[k]? = some value →
        Agrees m value
          (editDistance expected (extension.drop (extension.length - k) ++ baseActual)) := by
  refine ⟨fun left right => levenshteinDistance_agrees left right m,
    fun expected baseActual extension => boundedExtensionDistances_agrees _ _ _ m,
    fun expected baseActual extension k value hvalue => ?_⟩
  have h := (boundedExtensionDistances_agrees expected.reverse baseActual.reverse
    extension.reverse m).2 k value hvalue
  rwa [List.take_reverse, ← List.reverse_append, editDistance_reverse] at h

end AutomationTool.Executor.ScriptAlignment
