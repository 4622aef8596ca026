import Mathlib

/-!
# The earliest window inside two lists of stretches

A window of a fixed length lies in a list of stretches when one of them holds it whole.
`sweep` walks two ordered lists at once, compares one stretch of each, and drops the one
that ends first, or both.

* `sweep_earliest`: it finds the least start of a window that lies in both lists, and none
  only when there is no such window.
-/
namespace AutomationTool.Windows

/-- From `lo` up to `hi`, which is not in it. -/
structure Stretch where
  lo : Nat
  hi : Nat
  deriving DecidableEq

/-- The window of length `d` from `s` on lies in the stretch. -/
def Stretch.Holds (x : Stretch) (s d : Nat) : Prop := x.lo ≤ s ∧ s + d ≤ x.hi

/-- It lies in one of the stretches. -/
def Within (xs : List Stretch) (s d : Nat) : Prop := ∃ x ∈ xs, x.Holds s d

/-- Each stretch ends before the next begins; they may touch. -/
def Ordered (xs : List Stretch) : Prop := xs.Pairwise fun x y => x.lo ≤ y.lo ∧ x.hi ≤ y.lo

/-- `some s` is the least number with the property, `none` means that there is none. -/
def Earliest (P : Nat → Prop) : Option Nat → Prop
  | some s => P s ∧ ∀ t, P t → s ≤ t
  | none => ∀ t, ¬P t

theorem Earliest.congr {P Q : Nat → Prop} {r : Option Nat} (h : Earliest P r)
    (hpq : ∀ t, Q t ↔ P t) : Earliest Q r := by
  rwa [show Q = P from funext fun t => propext (hpq t)]

/-- The start of the earliest window of length `d` in both lists. -/
def sweep (d : Nat) : List Stretch → List Stretch → Option Nat
  | [], _ => none
  | _ :: _, [] => none
  | x :: xs, y :: ys =>
    let start := max y.lo x.lo
    if start + d ≤ min y.hi x.hi then some start
    else if x.hi < y.hi then sweep d xs (y :: ys)
    else if y.hi < x.hi then sweep d (x :: xs) ys
    else sweep d xs ys
termination_by xs ys => xs.length + ys.length

variable {d s : Nat} {x y : Stretch} {xs ys : List Stretch}

theorem within_cons : Within (x :: xs) s d ↔ x.Holds s d ∨ Within xs s d := by
  simp [Within]

theorem not_within_nil : ¬Within [] s d := fun ⟨_, hx, _⟩ => nomatch hx

theorem Ordered.tail (h : Ordered (x :: xs)) : Ordered xs := (List.pairwise_cons.1 h).2

/-- Every window in an ordered list begins at its first stretch or later. -/
theorem Ordered.le_of_within (h : Ordered (x :: xs)) (hs : Within (x :: xs) s d) : x.lo ≤ s := by
  rcases within_cons.1 hs with hx | ⟨z, hz, hzs⟩
  · exact hx.1
  · exact Nat.le_trans ((List.pairwise_cons.1 h).1 z hz).1 hzs.1

theorem Ordered.hi_le_of_within (h : Ordered (x :: xs)) (hs : Within xs s d) : x.hi ≤ s := by
  obtain ⟨z, hz, hzs⟩ := hs
  exact Nat.le_trans ((List.pairwise_cons.1 h).1 z hz).2 hzs.1

/-- a stretch that ends first and shares no window with the other's first holds none at all. -/
theorem within_drop (hys : Ordered (y :: ys)) (hd : 1 ≤ d) (hle : x.hi ≤ y.hi)
    (hmiss : ¬max y.lo x.lo + d ≤ min y.hi x.hi) (hx : Within (x :: xs) s d)
    (hy : Within (y :: ys) s d) : Within xs s d := by
  rcases within_cons.1 hx with hhold | hrest
  · exfalso
    obtain ⟨hlo, hhi⟩ := hhold
    rcases within_cons.1 hy with hyhold | hyrest
    · obtain ⟨hylo, hyhi⟩ := hyhold
      omega
    · have hafter := hys.hi_le_of_within hyrest
      omega
  · exact hrest

/-- Dropping it loses no common window. -/
theorem common_drop (hys : Ordered (y :: ys)) (hd : 1 ≤ d) (hle : x.hi ≤ y.hi)
    (hmiss : ¬max y.lo x.lo + d ≤ min y.hi x.hi) :
    Within (x :: xs) s d ∧ Within (y :: ys) s d ↔ Within xs s d ∧ Within (y :: ys) s d :=
  ⟨fun h => ⟨within_drop hys hd hle hmiss h.1 h.2, h.2⟩,
    fun h => ⟨within_cons.2 (.inr h.1), h.2⟩⟩

theorem sweep_earliest (hd : 1 ≤ d) (hxs : Ordered xs) (hys : Ordered ys) :
    Earliest (fun t => Within xs t d ∧ Within ys t d) (sweep d xs ys) := by
  fun_induction sweep d xs ys with
  | case1 ys => exact fun t ht => not_within_nil ht.1
  | case2 x xs => exact fun t ht => not_within_nil ht.2
  | case3 x xs y ys start hfits =>
    refine ⟨⟨within_cons.2 (.inl ⟨?_, ?_⟩), within_cons.2 (.inl ⟨?_, ?_⟩)⟩, fun t ht => ?_⟩
    · exact Nat.le_max_right ..
    · omega
    · exact Nat.le_max_left ..
    · omega
    · exact Nat.max_le.2 ⟨hys.le_of_within ht.2, hxs.le_of_within ht.1⟩
  | case4 x xs y ys start hmiss hlt ih =>
    exact (ih hxs.tail hys).congr fun t => common_drop hys hd (Nat.le_of_lt hlt) hmiss
  | case5 x xs y ys start hmiss _ hlt ih =>
    refine (ih hxs hys.tail).congr fun t => ?_
    rw [and_comm, common_drop hxs hd (Nat.le_of_lt hlt) (by omega), and_comm]
  | case6 x xs y ys start hmiss hge hle ih =>
    refine (ih hxs.tail hys.tail).congr fun t => ?_
    rw [common_drop hys hd (Nat.le_of_not_lt hle) hmiss, and_comm]
    constructor
    · rintro ⟨hy, hx⟩
      refine ⟨hx, ?_⟩
      rcases within_cons.1 hy with hhold | hrest
      · -- past `x`, which ends with `y`
        have hafter := hxs.hi_le_of_within hx
        have hend := hhold.2
        omega
      · exact hrest
    · exact fun h => ⟨within_cons.2 (.inr h.2), h.1⟩

end AutomationTool.Windows
