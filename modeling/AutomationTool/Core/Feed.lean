import Mathlib

/-!
# Feeds

A feed is a set of rows numbered from 1 without a gap (`Feed`), which grows at its end.
`feedOrder` is the feed in order, and `page` what a reader gets who asks for at most
`limit` rows after a number.

* `page_eq`: a page is the piece of the feed that its bounds name.
* `prefix_feedOrder`: rows that are numbered `1, 2, …` are a beginning of the feed, so
  what a reader has stays a beginning of it while the feed grows.
-/
namespace AutomationTool

universe u

variable {ρ : Type u} {key : ρ → Nat} {rows : List ρ} {last after limit : Nat}

/-- The rows carry the numbers from 1 to `last`, each once. -/
structure Feed (key : ρ → Nat) (rows : List ρ) (last : Nat) : Prop where
  numbers : (rows.map key).Perm (List.range' 1 last)

/-- `SELECT … ORDER BY key`. -/
def feedOrder (key : ρ → Nat) (rows : List ρ) : List ρ :=
  rows.insertionSort fun a b => key a ≤ key b

/-- `SELECT … WHERE key > after ORDER BY key LIMIT limit`. -/
def page (key : ρ → Nat) (rows : List ρ) (after limit : Nat) : List ρ :=
  (feedOrder key (rows.filter fun r => after < key r)).take limit

theorem perm_feedOrder : (feedOrder key rows).Perm rows := List.perm_insertionSort _ rows

theorem mem_feedOrder {r : ρ} : r ∈ feedOrder key rows ↔ r ∈ rows := perm_feedOrder.mem_iff

theorem pairwise_feedOrder : (feedOrder key rows).Pairwise fun a b => key a ≤ key b := by
  have hmap : (feedOrder key rows).map key = (rows.map key).insertionSort (· ≤ ·) :=
    List.map_insertionSort _ _ key rows fun _ _ _ _ => Iff.rfl
  apply List.pairwise_map.1
  rw [hmap]
  exact List.pairwise_insertionSort _ _

namespace Feed

theorem nodup (h : Feed key rows last) : (rows.map key).Nodup :=
  h.numbers.nodup_iff.2 List.nodup_range'

theorem length_eq (h : Feed key rows last) : rows.length = last := by
  simpa using h.numbers.length_eq

/-- A number names one row. -/
theorem unique (h : Feed key rows last) {a b : ρ} (ha : a ∈ rows) (hb : b ∈ rows)
    (hab : key a = key b) : a = b := List.inj_on_of_nodup_map h.nodup ha hb hab

theorem map_feedOrder (h : Feed key rows last) : (feedOrder key rows).map key = List.range' 1 last := by
  have hperm : ((feedOrder key rows).map key).Perm (List.range' 1 last) :=
    (perm_feedOrder.map key).trans h.numbers
  refine hperm.eq_of_pairwise (fun a b _ _ hab hba => Nat.le_antisymm hab hba) ?_ ?_
  · exact List.pairwise_map.2 pairwise_feedOrder
  · exact List.pairwise_le_range'

theorem length_feedOrder (h : Feed key rows last) : (feedOrder key rows).length = last := by
  rw [perm_feedOrder.length_eq, h.length_eq]

theorem key_feedOrder (h : Feed key rows last) {n : Nat} (hn : n < (feedOrder key rows).length) :
    key (feedOrder key rows)[n] = n + 1 := by
  have hmap := congrArg (fun l => l[n]?) h.map_feedOrder
  simp only [List.getElem?_map, List.getElem?_eq_getElem hn, Option.map_some] at hmap
  rw [List.getElem?_range' (h.length_feedOrder ▸ hn)] at hmap
  have := Option.some.inj hmap
  omega

/-- Rows of the feed that are numbered `1, 2, …` are a beginning of it. -/
theorem prefix_feedOrder (h : Feed key rows last) {l : List ρ} (hl : ∀ r ∈ l, r ∈ rows)
    (hkey : l.map key = List.range' 1 l.length) : l <+: feedOrder key rows := by
  have hle : l.length ≤ (feedOrder key rows).length := by
    have hsub : l.map key ⊆ rows.map key := by
      intro k hk
      obtain ⟨r, hr, rfl⟩ := List.mem_map.1 hk
      exact List.mem_map_of_mem (hl r hr)
    have hnodup : (l.map key).Nodup := by
      rw [hkey]
      exact List.nodup_range'
    have := (List.subperm_of_subset hnodup hsub).length_le
    simpa [perm_feedOrder.length_eq] using this
  rw [List.prefix_iff_eq_take]
  apply List.ext_getElem
  · simp [Nat.min_eq_left hle]
  intro n hn hn'
  simp only [List.getElem_take]
  have hln : key l[n] = n + 1 := by
    have hmap := congrArg (fun l => l[n]?) hkey
    simp only [List.getElem?_map, List.getElem?_eq_getElem hn, Option.map_some] at hmap
    rw [List.getElem?_range' hn] at hmap
    have := Option.some.inj hmap
    omega
  have hno : n < (feedOrder key rows).length := by omega
  exact h.unique (hl _ (List.getElem_mem hn)) (mem_feedOrder.1 (List.getElem_mem hno))
    (hln.trans (h.key_feedOrder hno).symm)

/-- The feed without its rows up to `after`. -/
theorem inOrder_filter (h : Feed key rows last) :
    feedOrder key (rows.filter fun r => after < key r) = (feedOrder key rows).drop after := by
  have hdrop : (feedOrder key rows).filter (fun r => after < key r) =
      (feedOrder key rows).drop after := by
    conv_lhs => rw [← List.take_append_drop after (feedOrder key rows), List.filter_append]
    have htake : ((feedOrder key rows).take after).filter (fun r => after < key r) = [] := by
      refine List.filter_eq_nil_iff.2 fun r hr => ?_
      obtain ⟨n, hn, rfl⟩ := List.getElem_of_mem hr
      rw [List.length_take] at hn
      have hkey := h.key_feedOrder (n := n) (by omega)
      simp only [List.getElem_take, hkey, decide_eq_true_eq]
      omega
    have hkeep : ((feedOrder key rows).drop after).filter (fun r => after < key r) =
        (feedOrder key rows).drop after := by
      refine List.filter_eq_self.2 fun r hr => ?_
      obtain ⟨n, hn, rfl⟩ := List.getElem_of_mem hr
      rw [List.length_drop] at hn
      have hkey := h.key_feedOrder (n := after + n) (by omega)
      simp only [List.getElem_drop, hkey, decide_eq_true_eq]
      omega
    rw [htake, hkeep, List.nil_append]
  rw [← hdrop]
  refine List.Perm.eq_of_pairwise ?_ pairwise_feedOrder (pairwise_feedOrder.filter _) ?_
  · intro a b ha hb hab hba
    have ha' := (List.mem_filter.1 (mem_feedOrder.1 ha)).1
    have hb' := mem_feedOrder.1 (List.mem_filter.1 hb).1
    exact h.unique ha' hb' (Nat.le_antisymm hab hba)
  · exact perm_feedOrder.trans (perm_feedOrder.filter _).symm

/-- A page is the piece of the feed that its bounds name. -/
theorem page_eq (h : Feed key rows last) :
    page key rows after limit = ((feedOrder key rows).drop after).take limit := by
  rw [page, h.inOrder_filter]

theorem length_page (h : Feed key rows last) :
    (page key rows after limit).length = min limit (last - after) := by
  rw [h.page_eq, List.length_take, List.length_drop, h.length_feedOrder]

theorem map_page (h : Feed key rows last) :
    (page key rows after limit).map key = List.range' (after + 1) (min limit (last - after)) := by
  rw [h.page_eq, List.map_take, List.map_drop, h.map_feedOrder, List.drop_range',
    show 1 + after * 1 = after + 1 by omega]
  by_cases hle : last - after ≤ limit
  · rw [List.take_range'_of_length_le hle, Nat.min_eq_right hle]
  · rw [List.take_range'_of_length_ge (by omega), Nat.min_eq_left (by omega)]

theorem mem_of_mem_page {r : ρ} (hr : r ∈ page key rows after limit) : r ∈ rows := by
  have := mem_feedOrder.1 (List.mem_of_mem_take hr)
  exact (List.mem_filter.1 this).1

end Feed
end AutomationTool
