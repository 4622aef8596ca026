import Mathlib

/-!
# Tables with uniqueness constraints

A relational table read back in insertion order: a list of rows together with
the proof that every two of them are `apart`, the conjunction of the table's
`PRIMARY KEY` and `UNIQUE` constraints. The statements a program issues
against it keep that proof:

* `insert?`: `INSERT`, which fails (and so aborts its transaction) on a
  constraint violation, and appends otherwise;
* `updateWhere`: `UPDATE … WHERE`, for assignments that leave every key
  column alone (`KeepsKeys`), and `deleteWhere`: `DELETE … WHERE`;
* `find?`: `SELECT … fetchone`, exact when its condition pins a key
  (`Selects`): `find?_eq_some_iff`.
-/
namespace AutomationTool

universe u

/-- A row type and its constraints: `apart a b` says that `a` and `b` differ
in every key column. -/
class Row (ρ : Type u) where
  apart : ρ → ρ → Prop
  symm : ∀ {a b : ρ}, apart a b → apart b a
  irrefl : ∀ a : ρ, ¬apart a a
  dec : DecidableRel apart

instance {ρ : Type u} [Row ρ] : DecidableRel (Row.apart (ρ := ρ)) := Row.dec

structure Table (ρ : Type u) [Row ρ] where
  rows : List ρ
  distinct : rows.Pairwise Row.apart

namespace Table

variable {ρ : Type u} [Row ρ]

def empty : Table ρ := ⟨[], .nil⟩

instance : Membership ρ (Table ρ) := ⟨fun t r => r ∈ t.rows⟩

theorem mem_def {t : Table ρ} {r : ρ} : r ∈ t ↔ r ∈ t.rows := Iff.rfl

@[simp] theorem not_mem_empty (r : ρ) : ¬r ∈ (empty : Table ρ) := List.not_mem_nil

@[ext] theorem ext {t t' : Table ρ} (h : t.rows = t'.rows) : t = t' := by
  cases t; cases t'; cases h; rfl

/-- Two rows that share a key column are one row. -/
theorem eq_of_not_apart {t : Table ρ} {a b : ρ} (ha : a ∈ t) (hb : b ∈ t)
    (h : ¬Row.apart a b) : a = b := by
  obtain ⟨rows, hd⟩ := t
  change a ∈ rows at ha
  change b ∈ rows at hb
  induction rows with
  | nil => cases ha
  | cons r rs ih =>
    obtain ⟨hr, hrs⟩ := List.pairwise_cons.1 hd
    rcases List.mem_cons.1 ha with rfl | ha' <;> rcases List.mem_cons.1 hb with rfl | hb'
    · rfl
    · exact absurd (hr b hb') h
    · exact absurd (Row.symm (hr a ha')) h
    · exact ih hrs ha' hb'

/-! ## Insertion -/

/-- `INSERT INTO t VALUES x`. -/
def insert? (t : Table ρ) (x : ρ) : Option (Table ρ) :=
  if h : ∀ r ∈ t.rows, Row.apart r x then
    some ⟨t.rows ++ [x], by
      refine List.pairwise_append.2 ⟨t.distinct, List.pairwise_singleton _ _, ?_⟩
      intro r hr y hy
      rw [List.mem_singleton.1 hy]
      exact h r hr⟩
  else none

theorem insert?_rows {t t' : Table ρ} {x : ρ} (h : t.insert? x = some t') :
    t'.rows = t.rows ++ [x] := by
  unfold insert? at h
  split at h
  · cases h; rfl
  · cases h

theorem insert?_fresh {t t' : Table ρ} {x : ρ} (h : t.insert? x = some t') :
    ∀ r ∈ t, Row.apart r x := by
  unfold insert? at h
  split at h
  · assumption
  · cases h

theorem insert?_isSome {t : Table ρ} {x : ρ} (h : ∀ r ∈ t, Row.apart r x) :
    (t.insert? x).isSome := by
  change ∀ r ∈ t.rows, Row.apart r x at h
  rw [insert?, dif_pos h]
  rfl

theorem mem_insert? {t t' : Table ρ} {x r : ρ} (h : t.insert? x = some t') :
    r ∈ t' ↔ r ∈ t ∨ r = x := by
  rw [mem_def, insert?_rows h, List.mem_append, List.mem_singleton]
  exact Iff.rfl

/-- A batch of inserts in one transaction. -/
def insertAll? (t : Table ρ) : List ρ → Option (Table ρ)
  | [] => some t
  | x :: xs => (t.insert? x).bind fun t' => t'.insertAll? xs

theorem insertAll?_rows {t t' : Table ρ} {xs : List ρ} (h : t.insertAll? xs = some t') :
    t'.rows = t.rows ++ xs := by
  induction xs generalizing t with
  | nil => cases h; exact (List.append_nil _).symm
  | cons x xs ih =>
    obtain ⟨m, hm, hr⟩ := Option.bind_eq_some_iff.1 h
    rw [ih hr, insert?_rows hm, List.append_assoc, List.singleton_append]

theorem mem_insertAll? {t t' : Table ρ} {xs : List ρ} {r : ρ} (h : t.insertAll? xs = some t') :
    r ∈ t' ↔ r ∈ t ∨ r ∈ xs := by
  rw [mem_def, insertAll?_rows h, List.mem_append]
  exact Iff.rfl

/-- An insert that fails met a row that shares a key column. -/
theorem insert?_eq_none {t : Table ρ} {x : ρ} (h : t.insert? x = none) :
    ∃ r ∈ t, ¬Row.apart r x := by
  unfold insert? at h
  split at h
  · cases h
  · rename_i hc
    obtain ⟨r, hr⟩ := Classical.not_forall.1 hc
    obtain ⟨hmem, hap⟩ := Classical.not_imp.1 hr
    exact ⟨r, hmem, hap⟩

theorem insertAll?_isSome {t : Table ρ} {xs : List ρ} (h : ∀ x ∈ xs, ∀ r ∈ t, Row.apart r x)
    (hd : xs.Pairwise Row.apart) : (t.insertAll? xs).isSome := by
  induction xs generalizing t with
  | nil => rfl
  | cons x xs ih =>
    obtain ⟨hx, hxs⟩ := List.pairwise_cons.1 hd
    obtain ⟨m, hm⟩ := Option.isSome_iff_exists.1 (insert?_isSome (h x List.mem_cons_self))
    unfold insertAll?
    rw [hm]
    refine ih (fun y hy r hr => ?_) hxs
    rcases (mem_insert? hm).1 hr with hr | rfl
    · exact h y (List.mem_cons_of_mem _ hy) r hr
    · exact hx y hy

/-! ## Update -/

/-- An assignment that touches no key column. -/
def KeepsKeys (f : ρ → ρ) : Prop := ∀ a b, Row.apart (f a) b ↔ Row.apart a b

theorem KeepsKeys.right {f : ρ → ρ} (h : KeepsKeys f) (a b : ρ) :
    Row.apart a (f b) ↔ Row.apart a b :=
  ⟨fun hab => Row.symm ((h b a).1 (Row.symm hab)), fun hab => Row.symm ((h b a).2 (Row.symm hab))⟩

/-- `UPDATE t SET f WHERE p`. -/
def updateWhere (t : Table ρ) (p : ρ → Bool) (f : ρ → ρ) (hf : KeepsKeys f) : Table ρ where
  rows := t.rows.map fun r => if p r then f r else r
  distinct := by
    refine List.pairwise_map.2 (t.distinct.imp fun {a b} hab => ?_)
    split <;> split
    · exact (hf _ _).2 ((hf.right _ _).2 hab)
    · exact (hf _ _).2 hab
    · exact (hf.right _ _).2 hab
    · exact hab

theorem mem_updateWhere {t : Table ρ} {p : ρ → Bool} {f : ρ → ρ} {hf : KeepsKeys f} {r : ρ} :
    r ∈ t.updateWhere p f hf ↔ ∃ r₀ ∈ t, (if p r₀ then f r₀ else r₀) = r := List.mem_map

/-! ## Deletion -/

/-- `DELETE FROM t WHERE p`. -/
def deleteWhere (t : Table ρ) (p : ρ → Bool) : Table ρ where
  rows := t.rows.filter fun r => !p r
  distinct := t.distinct.filter _

theorem mem_deleteWhere {t : Table ρ} {p : ρ → Bool} {r : ρ} :
    r ∈ t.deleteWhere p ↔ r ∈ t ∧ p r = false := by
  rw [mem_def, deleteWhere, List.mem_filter, Bool.not_eq_true']
  exact Iff.rfl

/-! ## Lookup -/

/-- `SELECT … FROM t WHERE p`, the first row. -/
def find? (t : Table ρ) (p : ρ → Bool) : Option ρ := t.rows.find? p

/-- `p` pins a key column: no two distinct rows of a table satisfy it. -/
def Selects (p : ρ → Bool) : Prop := ∀ a b, p a = true → p b = true → ¬Row.apart a b

theorem mem_of_find? {t : Table ρ} {p : ρ → Bool} {r : ρ} (h : t.find? p = some r) :
    r ∈ t ∧ p r = true := ⟨List.mem_of_find?_eq_some h, List.find?_some h⟩

theorem find?_eq_none {t : Table ρ} {p : ρ → Bool} :
    t.find? p = none ↔ ∀ r ∈ t, ¬p r = true := List.find?_eq_none

theorem find?_eq_some_iff {t : Table ρ} {p : ρ → Bool} (hp : Selects p) {r : ρ} :
    t.find? p = some r ↔ r ∈ t ∧ p r = true := by
  refine ⟨mem_of_find?, fun ⟨hr, hpr⟩ => ?_⟩
  cases hf : t.find? p with
  | none => exact absurd hpr (find?_eq_none.1 hf r hr)
  | some r' =>
    obtain ⟨hr', hpr'⟩ := mem_of_find? hf
    rw [eq_of_not_apart hr' hr (hp _ _ hpr' hpr)]

/-- A condition that one row of the table meets, and no other, filters that row. -/
theorem filter_eq_singleton {t : Table ρ} {p : ρ → Bool} {r : ρ} (hr : r ∈ t) (hp : p r = true)
    (h : ∀ x ∈ t, p x = true → x = r) : t.rows.filter p = [r] := by
  obtain ⟨rows, hd⟩ := t
  change r ∈ rows at hr
  change ∀ x ∈ rows, p x = true → x = r at h
  dsimp only
  induction rows with
  | nil => cases hr
  | cons x xs ih =>
    obtain ⟨hx, hxs⟩ := List.pairwise_cons.1 hd
    rw [List.filter_cons]
    by_cases hpx : p x = true
    · have hxr := h x List.mem_cons_self hpx
      subst hxr
      have hnil : xs.filter p = [] := by
        refine List.filter_eq_nil_iff.2 fun y hy hpy => ?_
        have hyx := h y (List.mem_cons_of_mem _ hy) hpy
        exact Row.irrefl y (hyx ▸ hx y hy)
      rw [if_pos hpx, hnil]
    · have hmem : r ∈ xs := by
        rcases List.mem_cons.1 hr with rfl | hr
        · exact absurd hp hpx
        · exact hr
      rw [if_neg hpx]
      exact ih hxs hmem fun y hy => h y (List.mem_cons_of_mem _ hy)

theorem find?_insert? {t t' : Table ρ} {x : ρ} {p : ρ → Bool} (h : t.insert? x = some t') :
    t'.find? p = (t.find? p).or (if p x then some x else none) := by
  unfold find?
  rw [insert?_rows h, List.find?_append]
  congr 1
  cases hx : p x <;> simp [List.find?, hx]

theorem find?_updateWhere {t : Table ρ} {p q : ρ → Bool} {f : ρ → ρ} (hf : KeepsKeys f)
    (hq : ∀ r, q (f r) = q r) :
    (t.updateWhere p f hf).find? q = (t.find? q).map fun r => if p r then f r else r := by
  unfold find? updateWhere
  rw [List.find?_map]
  congr 2
  funext r
  dsimp only [Function.comp]
  split
  · exact hq r
  · rfl

end Table
end AutomationTool
