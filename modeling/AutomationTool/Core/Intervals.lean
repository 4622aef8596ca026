import Mathlib

/-!
# Joining intervals

Intervals come in the order of their starts; one that touches the last of those kept is joined
to it. Lists have the last interval first.

* `Joined`: what the kept intervals have to do with those that came.
* `Joined.add`: one more interval.
-/
namespace AutomationTool.Intervals

variable {α : Type} [LinearOrder α]

def add (new : α × α) : List (α × α) → List (α × α)
  | [] => [new]
  | last :: earlier =>
    if new.1 ≤ last.2 then (last.1, max last.2 new.2) :: earlier else new :: last :: earlier

/-- The kept intervals lie apart, hold all that came, and nothing else. -/
structure Joined (came kept : List (α × α)) : Prop where
  nonempty : ∀ k ∈ kept, k.1 < k.2
  apart : kept.Pairwise fun later earlier => earlier.2 < later.1
  covers : ∀ i ∈ came, ∃ k ∈ kept, k.1 ≤ i.1 ∧ i.2 ≤ k.2
  starts : ∀ k ∈ kept, ∃ i ∈ came, i.1 = k.1 ∧ i.2 ≤ k.2
  ends : ∀ k ∈ kept, ∃ i ∈ came, i.2 = k.2
  within : ∀ k ∈ kept, ∀ t, k.1 ≤ t → t < k.2 → ∃ i ∈ came, i.1 ≤ t ∧ t < i.2

theorem joined_nil : Joined ([] : List (α × α)) [] where
  nonempty := nofun
  apart := .nil
  covers := nofun
  starts := nofun
  ends := nofun
  within := nofun

theorem add_touching {new last : α × α} (h : new.1 ≤ last.2) (earlier : List (α × α)) :
    add new (last :: earlier) = (last.1, max last.2 new.2) :: earlier := if_pos h

theorem add_apart {new last : α × α} (h : ¬new.1 ≤ last.2) (earlier : List (α × α)) :
    add new (last :: earlier) = new :: last :: earlier := if_neg h

omit [LinearOrder α] in
/-- A fact about the intervals kept before that holds of the one they are joined to as well. -/
theorem exists_cons {came : List (α × α)} {new : α × α} {P : α × α → Prop}
    (h : ∃ i ∈ came, P i) : ∃ i ∈ new :: came, P i := by
  obtain ⟨i, hi, hP⟩ := h
  exact ⟨i, List.mem_cons_of_mem _ hi, hP⟩

theorem Joined.add {came kept : List (α × α)} {new : α × α} (h : Joined came kept)
    (hnew : new.1 < new.2) (hlater : ∀ i ∈ came, i.1 ≤ new.1) :
    Joined (new :: came) (add new kept) := by
  cases kept with
  | nil =>
    have hnone : came = [] := by
      cases came with
      | nil => rfl
      | cons i came =>
        obtain ⟨k, hk, -⟩ := h.covers i List.mem_cons_self
        cases hk
    subst hnone
    exact
      { nonempty := by simp [Intervals.add, hnew]
        apart := .cons nofun .nil
        covers := by simp [Intervals.add]
        starts := by simp [Intervals.add]
        ends := by simp [Intervals.add]
        within := fun k hk t hfrom huntil => by
          rw [List.mem_singleton.1 hk] at hfrom huntil
          exact ⟨new, List.mem_singleton_self new, hfrom, huntil⟩ }
  | cons last earlier =>
    have hlast := h.nonempty last List.mem_cons_self
    have hstart : last.1 ≤ new.1 := by
      obtain ⟨i, hi, heq, -⟩ := h.starts last List.mem_cons_self
      exact heq ▸ hlater i hi
    obtain ⟨hbefore, hapart⟩ := List.pairwise_cons.1 h.apart
    by_cases htouch : new.1 ≤ last.2
    · rw [add_touching htouch]
      refine ⟨?_, ?_, ?_, ?_, ?_, ?_⟩
      · rw [List.forall_mem_cons]
        exact ⟨lt_of_lt_of_le hlast (le_max_left _ _), fun k hk =>
          h.nonempty k (List.mem_cons_of_mem _ hk)⟩
      · exact .cons hbefore hapart
      · rw [List.forall_mem_cons]
        refine ⟨⟨_, List.mem_cons_self, hstart, le_max_right _ _⟩, fun i hi => ?_⟩
        obtain ⟨k, hk, hstart', hend'⟩ := h.covers i hi
        rcases List.mem_cons.1 hk with rfl | hk
        · exact ⟨_, List.mem_cons_self, hstart', hend'.trans (le_max_left _ _)⟩
        · exact ⟨k, List.mem_cons_of_mem _ hk, hstart', hend'⟩
      · rw [List.forall_mem_cons]
        constructor
        · obtain ⟨i, hi, heq, hle⟩ := h.starts last List.mem_cons_self
          exact ⟨i, List.mem_cons_of_mem _ hi, heq, hle.trans (le_max_left _ _)⟩
        · exact fun k hk => exists_cons (h.starts k (List.mem_cons_of_mem _ hk))
      · rw [List.forall_mem_cons]
        constructor
        · rcases le_total last.2 new.2 with hle | hle
          · exact ⟨new, List.mem_cons_self, (max_eq_right hle).symm⟩
          · obtain ⟨i, hi, heq⟩ := h.ends last List.mem_cons_self
            exact ⟨i, List.mem_cons_of_mem _ hi, heq.trans (max_eq_left hle).symm⟩
        · exact fun k hk => exists_cons (h.ends k (List.mem_cons_of_mem _ hk))
      · rw [List.forall_mem_cons]
        constructor
        · intro t hfrom huntil
          by_cases hold : t < last.2
          · exact exists_cons (h.within last List.mem_cons_self t hfrom hold)
          · have hreach := (lt_max_iff.1 huntil).resolve_left hold
            exact ⟨new, List.mem_cons_self, htouch.trans (not_lt.1 hold), hreach⟩
        · exact fun k hk t hfrom huntil =>
            exists_cons (h.within k (List.mem_cons_of_mem _ hk) t hfrom huntil)
    · rw [add_apart htouch]
      rw [not_le] at htouch
      refine ⟨?_, ?_, ?_, ?_, ?_, ?_⟩
      · rw [List.forall_mem_cons]
        exact ⟨hnew, h.nonempty⟩
      · refine .cons (fun k hk => ?_) h.apart
        rcases List.mem_cons.1 hk with rfl | hk
        · exact htouch
        · exact (hbefore k hk).trans (hlast.trans htouch)
      · rw [List.forall_mem_cons]
        refine ⟨⟨new, List.mem_cons_self, le_refl _, le_refl _⟩, fun i hi => ?_⟩
        exact exists_cons (h.covers i hi)
      · rw [List.forall_mem_cons]
        exact ⟨⟨new, List.mem_cons_self, rfl, le_refl _⟩, fun k hk => exists_cons (h.starts k hk)⟩
      · rw [List.forall_mem_cons]
        exact ⟨⟨new, List.mem_cons_self, rfl⟩, fun k hk => exists_cons (h.ends k hk)⟩
      · rw [List.forall_mem_cons]
        exact ⟨fun t hfrom huntil => ⟨new, List.mem_cons_self, hfrom, huntil⟩,
          fun k hk t hfrom huntil => exists_cons (h.within k hk t hfrom huntil)⟩

end AutomationTool.Intervals
