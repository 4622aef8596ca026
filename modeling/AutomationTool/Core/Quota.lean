import Mathlib

/-!
# Counted and spaced entries

An append-only list of entries of which each records how many entries of its own class
there were up to and including it (`Counted`), and is apart in time from the earlier ones
of its class (`Spaced`). A writer that counts what is there and looks at the latest time
keeps both; what the latest entry of a class records is then true of the whole list.
-/
namespace AutomationTool.Quota

variable {α : Type} {same : α → α → Bool} {xs : List α}

/-- `n a` is the number of entries of `a`'s class up to `a`. -/
def Counted (same : α → α → Bool) (n : α → Nat) (xs : List α) : Prop :=
  ∀ l a r, xs = l ++ a :: r → n a = (l ++ [a]).countP (same a)

theorem Counted.nil {n : α → Nat} : Counted same n [] := fun l a r h => by simp at h

theorem Counted.concat {n : α → Nat} (h : Counted same n xs) {x : α}
    (hx : n x = xs.countP (same x) + 1) (hs : same x x = true) : Counted same n (xs ++ [x]) := by
  intro l a r he
  rcases List.eq_nil_or_concat r with rfl | ⟨r', y, rfl⟩
  · obtain ⟨rfl, ha⟩ := List.append_inj' he rfl
    cases ha
    rw [hx, List.countP_append]
    simp [hs]
  · have he' : xs ++ [x] = (l ++ a :: r') ++ [y] := by simpa using he
    exact h l a r' (List.append_inj' he' rfl).1

/-- What the latest entry of a class records is the number of all of them. -/
theorem Counted.latest {n : α → Nat} (h : Counted same n xs) {l r : List α} {a : α}
    (hx : xs = l ++ a :: r) (hr : ∀ b ∈ r, same a b = false) : xs.countP (same a) = n a := by
  have h0 : r.countP (same a) = 0 := by
    rw [List.countP_eq_zero]
    intro b hb
    rw [hr b hb]
    simp
  rw [h l a r hx, hx, show l ++ a :: r = (l ++ [a]) ++ r by simp, List.countP_append, h0,
    Nat.add_zero]

/-- Every entry is at least its own gap later than the earlier ones of its class. -/
def Spaced (same : α → α → Bool) (time gap : α → Nat) (xs : List α) : Prop :=
  xs.Pairwise fun a b => same b a = true → time a + gap b ≤ time b

theorem Spaced.concat {time gap : α → Nat} (h : Spaced same time gap xs) {x : α}
    (hx : ∀ a ∈ xs, same x a = true → time a + gap x ≤ time x) :
    Spaced same time gap (xs ++ [x]) := by
  refine List.pairwise_append.2 ⟨h, List.pairwise_singleton _ _, fun a ha b hb => ?_⟩
  rw [List.mem_singleton.1 hb]
  exact hx a ha

end AutomationTool.Quota
