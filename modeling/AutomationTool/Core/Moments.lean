import Mathlib

/-!
# Moments of a record

A record has a status and two counters. Every change moves its revision on; some of the
changes are announced, and the announcements are numbered. `Past` is what a record went
through, newest moment first, with the moments that were announced.

* `Past.revision_lt`: a moment that has not seen an announcement has a smaller revision.
* `Past.le_head`: the newest moment has the largest counters.
-/
namespace AutomationTool

variable {σ : Type}

structure Moment (σ : Type) where
  status : σ
  revision : Nat
  sequence : Nat

/-- All moments of a record and the announced ones, newest first. -/
inductive Past : List (Moment σ) → List (Moment σ) → Prop where
  | start (status : σ) (revision : Nat) : Past [⟨status, revision, 0⟩] []
  | changed {m n : Moment σ} {moments marks : List (Moment σ)} (past : Past (m :: moments) marks)
      (revision : m.revision ≤ n.revision) (sequence : n.sequence = m.sequence) :
      Past (n :: m :: moments) marks
  | announced {m n : Moment σ} {moments marks : List (Moment σ)}
      (past : Past (m :: moments) marks) (revision : m.revision < n.revision)
      (sequence : n.sequence = m.sequence + 1) : Past (n :: m :: moments) (n :: marks)

namespace Past

variable {m a e : Moment σ} {moments marks : List (Moment σ)}

theorem marks_subset (h : Past moments marks) : ∀ e ∈ marks, e ∈ moments := by
  induction h with
  | start => simp
  | changed _ _ _ ih =>
    intro e he
    exact List.mem_cons_of_mem _ (ih e he)
  | announced _ _ _ ih =>
    intro e he
    rcases List.mem_cons.1 he with rfl | he
    · exact List.mem_cons_self
    · exact List.mem_cons_of_mem _ (ih e he)

/-- The newest moment has the largest counters. -/
theorem le_head (h : Past (m :: moments) marks) :
    ∀ a ∈ m :: moments, a.revision ≤ m.revision ∧ a.sequence ≤ m.sequence := by
  generalize hall : m :: moments = all at h
  induction h generalizing m moments with
  | start =>
    cases hall
    simp
  | @changed m' n _ _ _ hr hs ih | @announced m' n _ _ _ hr hs ih =>
    cases hall
    intro a ha
    rcases List.mem_cons.1 ha with rfl | ha
    · simp
    · have := ih rfl a ha
      omega

/-- A moment that has not seen an announcement has a smaller revision. -/
theorem revision_lt (h : Past moments marks) : ∀ a ∈ moments, ∀ e ∈ marks,
    a.sequence < e.sequence → a.revision < e.revision := by
  induction h with
  | start => simp
  | @changed m n _ _ past hr hs ih =>
    intro a ha e he hlt
    rcases List.mem_cons.1 ha with rfl | ha
    · -- nothing was announced after the newest moment
      have := (past.le_head e (past.marks_subset e he)).2
      omega
    · exact ih a ha e he hlt
  | @announced m n _ _ past hr hs ih =>
    intro a ha e he hlt
    rcases List.mem_cons.1 ha with rfl | ha'
    · have := ((past.announced hr hs).le_head e ((past.announced hr hs).marks_subset e he)).2
      omega
    rcases List.mem_cons.1 he with rfl | he'
    · have := (past.le_head a ha').1
      omega
    · exact ih a ha' e he' hlt

end Past
end AutomationTool
