import Mathlib

/-!
# Keyset pages

Rows of distinct keys are read in pages, the greatest key first. A page holds `limit` rows
after its cursor, which stands for the key of the last row before it; one row more is read
to see whether there is another page.

* `Follows`: the pages read from a cursor on, until a page has no cursor.
* `follows_order`: from the start they are the rows in order, cut into full pages and a last
  one.
* `Follows.unique`: there is one way to follow them.
-/
namespace AutomationTool.Keyset

variable {ρ κ γ : Type} [LinearOrder κ] {key : ρ → κ} {rows : List ρ}

/-! ## The order -/

variable (key rows) in
/-- The rows, the greatest key first. -/
def ordered : List ρ := rows.insertionSort fun a b => key b ≤ key a

theorem perm_ordered : (ordered key rows).Perm rows := List.perm_insertionSort ..

theorem ordered_decreasing (h : (rows.map key).Nodup) :
    (ordered key rows).Pairwise fun a b => key b < key a := by
  have hle : (ordered key rows).Pairwise fun a b => key b ≤ key a :=
    List.pairwise_insertionSort (fun a b => key b ≤ key a) rows
  have hne : (ordered key rows).Pairwise fun a b => key a ≠ key b := by
    rw [← List.pairwise_map (f := key)]
    exact ((perm_ordered.map key).nodup_iff).2 h
  exact (hle.and hne).imp fun h => lt_of_le_of_ne h.1 h.2.symm

variable (key rows) in
/-- At most `limit` rows, the greatest key first, of those below `before`. -/
def page (before : Option κ) (limit : Nat) : List ρ :=
  (ordered key (rows.filter fun r => before.all fun k => key r < k)).take limit

/-- Below the last of the first rows are the others. -/
theorem ordered_rest (h : (rows.map key).Nodup) {done rest : List ρ}
    (hsplit : ordered key rows = done ++ rest) :
    ordered key (rows.filter fun r => (done.getLast?.map key).all fun k => key r < k) = rest := by
  have hall := ordered_decreasing h
  rw [hsplit, List.pairwise_append] at hall
  obtain ⟨hdone, hrest, hbetween⟩ := hall
  have hkept : (done ++ rest).filter (fun r => (done.getLast?.map key).all fun k => key r < k) =
      rest := by
    rw [List.filter_append]
    obtain rfl | ⟨front, last, rfl⟩ := List.eq_nil_or_concat done
    · simp
    · simp only [List.concat_eq_append, List.getLast?_concat, Option.map_some, Option.all_some]
        at hdone hbetween ⊢
      have hnone : (front ++ [last]).filter (fun r => decide (key r < key last)) = [] := by
        rw [List.filter_eq_nil_iff]
        intro r hr
        obtain hr | hr := List.mem_append.1 hr
        · have hlt := (List.pairwise_append.1 hdone).2.2 r hr last List.mem_cons_self
          simpa using hlt.le
        · rw [List.mem_singleton.1 hr]
          simp
      have hsome : rest.filter (fun r => decide (key r < key last)) = rest := by
        rw [List.filter_eq_self]
        intro r hr
        simpa using hbetween last (List.mem_append_right _ List.mem_cons_self) r hr
      rw [hnone, hsome, List.nil_append]
  have hnodup : ((rows.filter fun r => (done.getLast?.map key).all fun k => key r < k).map key).Nodup :=
    h.sublist (List.filter_sublist.map key)
  refine List.Perm.eq_of_pairwise ?_ (ordered_decreasing hnodup) hrest ?_
  · intro a b _ _ hab hba
    exact absurd hba hab.asymm
  · refine perm_ordered.trans ?_
    rw [← hkept, ← hsplit]
    have hperm : (ordered key rows).Perm rows := perm_ordered
    exact hperm.symm.filter _

/-! ## Following the cursors -/

/-- The pages from a cursor on. -/
inductive Follows (list : Option γ → Option (List ρ × Option γ)) :
    Option γ → List (List ρ) → Prop where
  | last {cursor : Option γ} {items : List ρ} (h : list cursor = some (items, none)) :
      Follows list cursor [items]
  | next {cursor : Option γ} {items : List ρ} {next : γ} {pages : List (List ρ)}
      (h : list cursor = some (items, some next)) (hrest : Follows list (some next) pages) :
      Follows list cursor (items :: pages)

variable {list : Option γ → Option (List ρ × Option γ)}

theorem Follows.unique {cursor : Option γ} {pages pages' : List (List ρ)}
    (h : Follows list cursor pages) (h' : Follows list cursor pages') : pages = pages' := by
  induction h generalizing pages' with
  | last h =>
    cases h' with
    | last h' =>
      cases h.symm.trans h'
      rfl
    | next h' => cases h.symm.trans h'
  | next h hrest ih =>
    cases h' with
    | last h' => cases h.symm.trans h'
    | next h' hrest' =>
      cases h.symm.trans h'
      rw [ih hrest']

/-- Pages of at most `limit` rows, all but the last of exactly so many. -/
structure Filled (limit : Nat) (pages : List (List ρ)) : Prop where
  le : ∀ items ∈ pages, items.length ≤ limit
  eq : ∀ items ∈ pages.dropLast, items.length = limit

variable {encode : κ → γ} {limit : Nat}

/-- From the last of the first rows on, the pages hold the others. -/
theorem follows_rest (h : (rows.map key).Nodup) (hlimit : 0 < limit)
    (hlist : ∀ before : Option κ, list (before.map encode) =
      let records := page key rows before (limit + 1)
      some (records.take limit, if limit < records.length then
        (records.take limit).getLast?.map fun r => encode (key r) else none))
    {done rest : List ρ} (hsplit : ordered key rows = done ++ rest) :
    ∃ pages, Follows list ((done.getLast?.map key).map encode) pages ∧ pages.flatten = rest ∧
      Filled limit pages := by
  induction hn : rest.length using Nat.strong_induction_on generalizing done rest with
  | _ n ih =>
    have hstep := hlist (done.getLast?.map key)
    simp only [page, ordered_rest h hsplit, List.take_take, Nat.min_eq_left (Nat.le_succ limit)]
      at hstep
    by_cases hmore : limit < rest.length
    · have hsplit' : ordered key rows = (done ++ rest.take limit) ++ rest.drop limit := by
        rw [List.append_assoc, List.take_append_drop]
        exact hsplit
      have hshorter : (rest.drop limit).length < n := by
        rw [List.length_drop]
        omega
      obtain ⟨pages, hpages, hflat, hle, heq⟩ := ih _ hshorter hsplit' rfl
      have hfull : (rest.take limit).length = limit := by
        rw [List.length_take]
        omega
      obtain ⟨last, hlast⟩ : ∃ last, (rest.take limit).getLast? = some last := by
        cases hl : (rest.take limit).getLast? with
        | none =>
          rw [List.getLast?_eq_none_iff.1 hl, List.length_nil] at hfull
          omega
        | some last => exact ⟨last, rfl⟩
      rw [if_pos (by rw [List.length_take]; omega), hlast] at hstep
      rw [List.getLast?_append, hlast] at hpages
      refine ⟨rest.take limit :: pages, .next hstep hpages, ?_, ?_, ?_⟩
      · rw [List.flatten_cons, hflat, List.take_append_drop]
      · intro items hitems
        obtain rfl | hitems := List.mem_cons.1 hitems
        · exact hfull.le
        · exact hle items hitems
      · have hne : pages ≠ [] := by
          intro hnil
          rw [hnil] at hpages
          cases hpages
        rw [List.dropLast_cons_of_ne_nil hne]
        intro items hitems
        obtain rfl | hitems := List.mem_cons.1 hitems
        · exact hfull
        · exact heq items hitems
    · have hshort : rest.length ≤ limit := by omega
      rw [if_neg (by rw [List.length_take]; omega), List.take_of_length_le hshort] at hstep
      refine ⟨[rest], .last hstep, by simp, ?_, ?_⟩
      · simpa using hshort
      · simp

/-- **All rows, each once, in order.** -/
theorem follows_ordered (h : (rows.map key).Nodup) (hlimit : 0 < limit)
    (hlist : ∀ before : Option κ, list (before.map encode) =
      let records := page key rows before (limit + 1)
      some (records.take limit, if limit < records.length then
        (records.take limit).getLast?.map fun r => encode (key r) else none)) :
    ∃ pages, Follows list none pages ∧ pages.flatten = ordered key rows ∧ Filled limit pages := by
  have hsplit : ordered key rows = [] ++ ordered key rows := rfl
  exact follows_rest h hlimit hlist hsplit

end AutomationTool.Keyset
