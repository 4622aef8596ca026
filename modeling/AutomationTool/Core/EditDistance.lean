import Mathlib

/-!
# The edit distance of two lists

How far two lists are apart, counted in single elements that are deleted, inserted or replaced.

* `Edits`: one list rewritten as another from front to back, with what it costs.
* `editDistance`: the recurrence from the front; it is the least cost (`editDistance_le`).
* `editDistance_concat`: the same recurrence from the back, which a table of prefixes follows.
* `Agrees`: a value that is exact up to a bound and above the bound where the distance is;
  `Agrees.step` carries it through the recurrence, `Agrees.beyond` covers a cell left out.
-/
namespace AutomationTool

universe u

variable {α : Type u}

/-- `Edits xs ys n`: `xs` becomes `ys` with `n` edits. -/
inductive Edits : List α → List α → Nat → Prop where
  | nil : Edits [] [] 0
  | keep {xs ys : List α} {n : Nat} (x : α) (h : Edits xs ys n) : Edits (x :: xs) (x :: ys) n
  | delete {xs ys : List α} {n : Nat} (x : α) (h : Edits xs ys n) : Edits (x :: xs) ys (n + 1)
  | insert {xs ys : List α} {n : Nat} (y : α) (h : Edits xs ys n) : Edits xs (y :: ys) (n + 1)
  | replace {xs ys : List α} {n : Nat} (x y : α) (h : Edits xs ys n) :
      Edits (x :: xs) (y :: ys) (n + 1)

namespace Edits

variable {xs ys xs' ys' : List α} {n n' : Nat}

theorem append (h : Edits xs ys n) (h' : Edits xs' ys' n') :
    Edits (xs ++ xs') (ys ++ ys') (n + n') := by
  induction h with
  | nil =>
    rw [Nat.zero_add]
    exact h'
  | keep x _ ih => exact .keep x ih
  | delete x _ ih =>
    rw [Nat.add_right_comm]
    exact .delete x ih
  | insert y _ ih =>
    rw [Nat.add_right_comm]
    exact .insert y ih
  | replace x y _ ih =>
    rw [Nat.add_right_comm]
    exact .replace x y ih

theorem reverse (h : Edits xs ys n) : Edits xs.reverse ys.reverse n := by
  induction h with
  | nil => exact .nil
  | keep x _ ih =>
    rw [List.reverse_cons, List.reverse_cons]
    exact ih.append (.keep x .nil)
  | @delete xs ys n x _ ih =>
    rw [List.reverse_cons, ← List.append_nil ys.reverse]
    exact ih.append (.delete x .nil)
  | @insert xs ys n y _ ih =>
    rw [List.reverse_cons, ← List.append_nil xs.reverse]
    exact ih.append (.insert y .nil)
  | replace x y _ ih =>
    rw [List.reverse_cons, List.reverse_cons]
    exact ih.append (.replace x y .nil)

theorem symm (h : Edits xs ys n) : Edits ys xs n := by
  induction h with
  | nil => exact .nil
  | keep x _ ih => exact .keep x ih
  | delete x _ ih => exact .insert x ih
  | insert y _ ih => exact .delete y ih
  | replace x y _ ih => exact .replace y x ih

/-- An edit changes the length by one at most. -/
theorem length_le (h : Edits xs ys n) : xs.length ≤ ys.length + n := by
  induction h with
  | nil => simp
  | keep x _ ih | delete x _ ih | insert y _ ih | replace x y _ ih =>
    simp only [List.length_cons]
    omega

theorem of_nil_left (ys : List α) : Edits [] ys ys.length := by
  induction ys with
  | nil => exact .nil
  | cons y ys ih => exact .insert y ih

end Edits

variable [DecidableEq α]

def editDistance : List α → List α → Nat
  | [], ys => ys.length
  | x :: xs, [] => (x :: xs).length
  | x :: xs, y :: ys =>
    min (min (editDistance xs (y :: ys)) (editDistance (x :: xs) ys) + 1)
      (editDistance xs ys + if x = y then 0 else 1)
termination_by xs ys => xs.length + ys.length

@[simp] theorem editDistance_nil_left (ys : List α) : editDistance [] ys = ys.length := by
  rw [editDistance]

@[simp] theorem editDistance_nil_right (xs : List α) : editDistance xs [] = xs.length := by
  cases xs <;> rw [editDistance]

theorem editDistance_cons (x y : α) (xs ys : List α) :
    editDistance (x :: xs) (y :: ys) =
      min (min (editDistance xs (y :: ys)) (editDistance (x :: xs) ys) + 1)
        (editDistance xs ys + if x = y then 0 else 1) := by
  rw [editDistance]

theorem editDistance_delete_le (x : α) (xs ys : List α) :
    editDistance (x :: xs) ys ≤ editDistance xs ys + 1 := by
  cases ys with
  | nil => simp
  | cons y ys =>
    rw [editDistance_cons]
    omega

theorem editDistance_insert_le (y : α) (xs ys : List α) :
    editDistance xs (y :: ys) ≤ editDistance xs ys + 1 := by
  cases xs with
  | nil => simp
  | cons x xs =>
    rw [editDistance_cons]
    omega

/-- No edits cost less. -/
theorem editDistance_le {xs ys : List α} {n : Nat} (h : Edits xs ys n) :
    editDistance xs ys ≤ n := by
  induction h with
  | nil => simp
  | keep x _ ih =>
    rw [editDistance_cons, if_pos rfl]
    omega
  | delete x _ ih => exact (editDistance_delete_le x _ _).trans (Nat.add_le_add_right ih 1)
  | insert y _ ih => exact (editDistance_insert_le y _ _).trans (Nat.add_le_add_right ih 1)
  | replace x y _ ih =>
    rw [editDistance_cons]
    split <;> omega

/-- Some edits cost that much. -/
theorem edits_editDistance (xs ys : List α) : Edits xs ys (editDistance xs ys) := by
  induction xs, ys using editDistance.induct with
  | case1 ys =>
    rw [editDistance_nil_left]
    exact Edits.of_nil_left ys
  | case2 x xs =>
    rw [editDistance_nil_right]
    exact (Edits.of_nil_left _).symm
  | case3 x xs y ys hdelete hinsert hboth =>
    have hreplace : Edits (x :: xs) (y :: ys) (editDistance xs ys + if x = y then 0 else 1) := by
      split
      · rename_i heq
        subst heq
        exact .keep x hboth
      · exact .replace x y hboth
    rw [editDistance_cons]
    obtain h | h := Nat.le_total
      (min (editDistance xs (y :: ys)) (editDistance (x :: xs) ys) + 1)
      (editDistance xs ys + if x = y then 0 else 1)
    · rw [Nat.min_eq_left h]
      obtain h' | h' := Nat.le_total (editDistance xs (y :: ys)) (editDistance (x :: xs) ys)
      · rw [Nat.min_eq_left h']
        exact .delete x hdelete
      · rw [Nat.min_eq_right h']
        exact .insert y hinsert
    · rw [Nat.min_eq_right h]
      exact hreplace

theorem editDistance_reverse (xs ys : List α) :
    editDistance xs.reverse ys.reverse = editDistance xs ys := by
  apply Nat.le_antisymm
  · exact editDistance_le (edits_editDistance xs ys).reverse
  · have h := (edits_editDistance xs.reverse ys.reverse).reverse
    rw [List.reverse_reverse, List.reverse_reverse] at h
    exact editDistance_le h

theorem editDistance_comm (xs ys : List α) : editDistance xs ys = editDistance ys xs :=
  Nat.le_antisymm (editDistance_le (edits_editDistance ys xs).symm)
    (editDistance_le (edits_editDistance xs ys).symm)

/-- The recurrence from the back. -/
theorem editDistance_concat (x y : α) (xs ys : List α) :
    editDistance (xs ++ [x]) (ys ++ [y]) =
      min (min (editDistance xs (ys ++ [y])) (editDistance (xs ++ [x]) ys) + 1)
        (editDistance xs ys + if x = y then 0 else 1) := by
  have h := editDistance_cons x y xs.reverse ys.reverse
  have hx : x :: xs.reverse = (xs ++ [x]).reverse := by simp
  have hy : y :: ys.reverse = (ys ++ [y]).reverse := by simp
  rw [hx, hy] at h
  simpa only [editDistance_reverse] using h

theorem length_le_editDistance (xs ys : List α) : xs.length ≤ ys.length + editDistance xs ys :=
  (edits_editDistance xs ys).length_le

/-! ## Up to a bound -/

/-- The value is the distance, or both are above the bound. -/
def Agrees (m value distance : Nat) : Prop :=
  (distance ≤ m → value = distance) ∧ (m < distance → m < value)

theorem Agrees.self (m n : Nat) : Agrees m n n := ⟨fun _ => rfl, id⟩

/-- The recurrence keeps values exact up to the bound. -/
theorem Agrees.step {m left above diagonal l a d cost : Nat} (hl : Agrees m left l)
    (ha : Agrees m above a) (hd : Agrees m diagonal d) :
    Agrees m (min (min (left + 1) (above + 1)) (diagonal + cost)) (min (min l a + 1) (d + cost)) := by
  obtain ⟨hl, hl'⟩ := hl
  obtain ⟨ha, ha'⟩ := ha
  obtain ⟨hd, hd'⟩ := hd
  constructor <;> omega

/-- Lists whose lengths differ by more than the bound are further apart than it. -/
theorem Agrees.beyond {m : Nat} {xs ys : List α}
    (h : xs.length + m < ys.length ∨ ys.length + m < xs.length) :
    Agrees m (m + 1) (editDistance xs ys) := by
  have hxs := length_le_editDistance xs ys
  have hys := length_le_editDistance ys xs
  rw [editDistance_comm] at hys
  constructor <;> omega

end AutomationTool
