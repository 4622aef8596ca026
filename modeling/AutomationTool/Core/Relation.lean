import AutomationTool.Core.Table

/-!
# Relations with row constraints

A `Table` whose rows also pass the table's `CHECK` constraints. Every statement
that may violate a constraint is partial, and `none` is the integrity error that
rolls its transaction back:

* `insert?`: `INSERT`;
* `replace?`: `UPDATE` of the one row the transaction holds locked (`Replaced` says what
  it did);
* `update?`: `UPDATE … WHERE`;
* `deleteWhere`: `DELETE … WHERE`, which can violate neither kind of constraint.

The `mem_` lemmas say which rows a relation holds afterwards; nothing else about
a statement is used by what is built on top.
-/
namespace AutomationTool

universe u

/-- A row type with its keys (`Row`) and its `CHECK` constraints. -/
class Schema (ρ : Type u) extends Row ρ where
  check : ρ → Prop
  decCheck : DecidablePred check

instance {ρ : Type u} [Schema ρ] : DecidablePred (Schema.check (ρ := ρ)) := Schema.decCheck

structure Relation (ρ : Type u) [Schema ρ] extends Table ρ where
  checked : ∀ r ∈ rows, Schema.check r

namespace Relation

variable {ρ : Type u} [Schema ρ]

def empty : Relation ρ := ⟨Table.empty, fun _ h => nomatch h⟩

instance : Membership ρ (Relation ρ) := ⟨fun t r => r ∈ t.rows⟩

theorem mem_def {t : Relation ρ} {r : ρ} : r ∈ t ↔ r ∈ t.rows := Iff.rfl

@[simp] theorem not_mem_empty (r : ρ) : ¬r ∈ (empty : Relation ρ) := List.not_mem_nil

theorem check_of_mem {t : Relation ρ} {r : ρ} (h : r ∈ t) : Schema.check r := t.checked r h

@[ext] theorem ext {t t' : Relation ρ} (h : t.rows = t'.rows) : t = t' := by
  obtain ⟨t, _⟩ := t
  obtain ⟨t', _⟩ := t'
  have ht : t = t' := Table.ext h
  cases ht
  rfl

/-- Two rows that share a key column are one row. -/
theorem eq_of_not_apart {t : Relation ρ} {a b : ρ} (ha : a ∈ t) (hb : b ∈ t)
    (h : ¬Row.apart a b) : a = b := Table.eq_of_not_apart (t := t.toTable) ha hb h

theorem apart_of_ne {t : Relation ρ} {a b : ρ} (ha : a ∈ t) (hb : b ∈ t) (h : a ≠ b) :
    Row.apart a b := Decidable.by_contra fun hn => h (eq_of_not_apart ha hb hn)

/-! ## Lookup -/

/-- `SELECT … WHERE p`, `one_or_none`. -/
def find? (t : Relation ρ) (p : ρ → Bool) : Option ρ := t.rows.find? p

theorem mem_of_find? {t : Relation ρ} {p : ρ → Bool} {r : ρ} (h : t.find? p = some r) :
    r ∈ t ∧ p r = true := ⟨List.mem_of_find?_eq_some h, List.find?_some h⟩

theorem find?_eq_none {t : Relation ρ} {p : ρ → Bool} :
    t.find? p = none ↔ ∀ r ∈ t, ¬p r = true := List.find?_eq_none

/-- A lookup by a key column finds the row it names. -/
theorem find?_eq_some_iff {t : Relation ρ} {p : ρ → Bool} (hp : Table.Selects p) {r : ρ} :
    t.find? p = some r ↔ r ∈ t ∧ p r = true := Table.find?_eq_some_iff (t := t.toTable) hp

theorem find?_key_iff {t : Relation ρ} {q : ρ → Prop} [DecidablePred q] {r : ρ}
    (hq : ∀ a b, q a → q b → ¬Row.apart a b) :
    t.find? (fun r => q r) = some r ↔ r ∈ t ∧ q r := by
  rw [find?_eq_some_iff fun a b ha hb => hq a b (of_decide_eq_true ha) (of_decide_eq_true hb)]
  simp

/-- `SELECT … WHERE p ORDER BY key LIMIT 1`. -/
def least? {κ : Type} [LinearOrder κ] (t : Relation ρ) (p : ρ → Bool) (key : ρ → κ) : Option ρ :=
  (t.rows.filter p).argmin key

theorem least?_eq_some {κ : Type} [LinearOrder κ] {t : Relation ρ} {p : ρ → Bool} {key : ρ → κ}
    {r : ρ} (h : t.least? p key = some r) :
    r ∈ t ∧ p r = true ∧ ∀ r' ∈ t, p r' = true → key r ≤ key r' := by
  have hm := List.mem_filter.1 (List.argmin_mem h)
  refine ⟨hm.1, hm.2, fun r' hr' hp => ?_⟩
  exact List.le_of_mem_argmin (List.mem_filter.2 ⟨hr', hp⟩) h

theorem least?_eq_none {κ : Type} [LinearOrder κ] {t : Relation ρ} {p : ρ → Bool} {key : ρ → κ} :
    t.least? p key = none ↔ ∀ r ∈ t, ¬p r = true := by
  unfold least?
  rw [List.argmin_eq_none, List.filter_eq_nil_iff]
  exact Iff.rfl

/-- Where the key tells the rows apart, the least row is the only one. -/
theorem least?_eq_some_iff {κ : Type} [LinearOrder κ] {t : Relation ρ} {p : ρ → Bool}
    {key : ρ → κ} (hkey : ∀ a ∈ t, ∀ b ∈ t, key a = key b → a = b) {r : ρ} :
    t.least? p key = some r ↔ r ∈ t ∧ p r = true ∧ ∀ r' ∈ t, p r' = true → key r ≤ key r' := by
  refine ⟨least?_eq_some, fun ⟨hr, hp, hle⟩ => ?_⟩
  cases h : t.least? p key with
  | none => exact absurd hp (least?_eq_none.1 h r hr)
  | some x =>
    obtain ⟨hx, hpx, hlex⟩ := least?_eq_some h
    rw [hkey x hx r hr (le_antisymm (hlex r hr hp) (hle x hx hpx))]

/-- `SELECT coalesce(max(f), 0) … WHERE p`. -/
def maxOf (t : Relation ρ) (p : ρ → Bool) (f : ρ → Nat) : Nat :=
  ((t.rows.filter p).map f).foldr max 0

theorem maxOf_le_iff {t : Relation ρ} {p : ρ → Bool} {f : ρ → Nat} {n : Nat} :
    t.maxOf p f ≤ n ↔ ∀ r ∈ t, p r = true → f r ≤ n := by
  unfold maxOf
  change _ ↔ ∀ r ∈ t.rows, p r = true → f r ≤ n
  induction t.rows with
  | nil => simp
  | cons x xs ih =>
    by_cases hx : p x = true <;> simp [hx, ih]

theorem le_maxOf {t : Relation ρ} {p : ρ → Bool} {f : ρ → Nat} {r : ρ} (hr : r ∈ t)
    (hp : p r = true) : f r ≤ t.maxOf p f := maxOf_le_iff.1 (Nat.le_refl _) r hr hp

/-- A maximum that is not the default is attained. -/
theorem maxOf_mem {t : Relation ρ} {p : ρ → Bool} {f : ρ → Nat} (h : 0 < t.maxOf p f) :
    ∃ r ∈ t, p r = true ∧ f r = t.maxOf p f := by
  unfold maxOf at h ⊢
  change ∃ r ∈ t.rows, _
  revert h
  induction t.rows with
  | nil => nofun
  | cons x xs ih =>
    intro h
    by_cases hx : p x = true
    · simp only [List.filter_cons_of_pos hx, List.map_cons, List.foldr_cons] at h ⊢
      rcases Nat.le_total (f x) (((xs.filter p).map f).foldr max 0) with hle | hle
      · rw [Nat.max_eq_right hle] at h ⊢
        obtain ⟨r, hr, hp, hf⟩ := ih h
        exact ⟨r, List.mem_cons_of_mem _ hr, hp, hf⟩
      · exact ⟨x, List.mem_cons_self, hx, (Nat.max_eq_left hle).symm⟩
    · simp only [List.filter_cons_of_neg hx] at h ⊢
      obtain ⟨r, hr, hp, hf⟩ := ih h
      exact ⟨r, List.mem_cons_of_mem _ hr, hp, hf⟩

/-! ## Statements -/

def insert? (t : Relation ρ) (x : ρ) : Option (Relation ρ) :=
  if h : Schema.check x ∧ ∀ r ∈ t.rows, Row.apart r x then
    some
      { rows := t.rows ++ [x]
        distinct := by
          refine List.pairwise_append.2 ⟨t.distinct, List.pairwise_singleton _ _, ?_⟩
          intro r hr y hy
          rw [List.mem_singleton.1 hy]
          exact h.2 r hr
        checked := by
          intro r hr
          rcases List.mem_append.1 hr with hr | hr
          · exact t.checked r hr
          · rw [List.mem_singleton.1 hr]
            exact h.1 }
  else none

theorem insert?_eq_some {t t' : Relation ρ} {x : ρ} :
    t.insert? x = some t' ↔
      Schema.check x ∧ (∀ r ∈ t, Row.apart r x) ∧ t'.rows = t.rows ++ [x] := by
  unfold insert?
  split
  · rename_i h
    constructor
    · intro he
      cases he
      exact ⟨h.1, h.2, rfl⟩
    · rintro ⟨-, -, he⟩
      exact congrArg some (ext he.symm)
  · rename_i h
    constructor
    · intro he
      cases he
    · rintro ⟨hc, ha, -⟩
      exact absurd ⟨hc, ha⟩ h

theorem insert?_rows {t t' : Relation ρ} {x : ρ} (h : t.insert? x = some t') :
    t'.rows = t.rows ++ [x] := (insert?_eq_some.1 h).2.2

theorem insert?_fresh {t t' : Relation ρ} {x : ρ} (h : t.insert? x = some t') :
    ∀ r ∈ t, Row.apart r x := (insert?_eq_some.1 h).2.1

theorem insert?_check {t t' : Relation ρ} {x : ρ} (h : t.insert? x = some t') :
    Schema.check x := (insert?_eq_some.1 h).1

theorem insert?_isSome {t : Relation ρ} {x : ρ} (hc : Schema.check x)
    (h : ∀ r ∈ t, Row.apart r x) : ∃ t', t.insert? x = some t' := by
  change ∀ r ∈ t.rows, Row.apart r x at h
  rw [insert?, dif_pos ⟨hc, h⟩]
  exact ⟨_, rfl⟩

theorem mem_insert? {t t' : Relation ρ} {x r : ρ} (h : t.insert? x = some t') :
    r ∈ t' ↔ r ∈ t ∨ r = x := by
  rw [mem_def, insert?_rows h, List.mem_append, List.mem_singleton]
  exact Iff.rfl

theorem not_mem_of_insert? {t t' : Relation ρ} {x : ρ} (h : t.insert? x = some t') : x ∉ t :=
  fun hx => Row.irrefl x (insert?_fresh h x hx)

/-- A batch of inserts. -/
def insertAll? (t : Relation ρ) : List ρ → Option (Relation ρ)
  | [] => some t
  | x :: xs => (t.insert? x).bind fun t' => t'.insertAll? xs

theorem insertAll?_rows {t t' : Relation ρ} {xs : List ρ} (h : t.insertAll? xs = some t') :
    t'.rows = t.rows ++ xs := by
  induction xs generalizing t with
  | nil => cases h; exact (List.append_nil _).symm
  | cons x xs ih =>
    obtain ⟨m, hm, hr⟩ := Option.bind_eq_some_iff.1 h
    rw [ih hr, insert?_rows hm, List.append_assoc, List.singleton_append]

theorem mem_insertAll? {t t' : Relation ρ} {xs : List ρ} {r : ρ}
    (h : t.insertAll? xs = some t') : r ∈ t' ↔ r ∈ t ∨ r ∈ xs := by
  rw [mem_def, insertAll?_rows h, List.mem_append]
  exact Iff.rfl

/-- `UPDATE t SET f WHERE p`. -/
def update? (t : Relation ρ) (p : ρ → Bool) (f : ρ → ρ) : Option (Relation ρ) :=
  if h : (t.rows.map fun r => if p r then f r else r).Pairwise Row.apart ∧
      ∀ r ∈ t.rows.map fun r => if p r then f r else r, Schema.check r then
    some ⟨⟨_, h.1⟩, h.2⟩
  else none

theorem update?_eq_some {t t' : Relation ρ} {p : ρ → Bool} {f : ρ → ρ} :
    t.update? p f = some t' ↔ t'.rows = t.rows.map fun r => if p r then f r else r := by
  unfold update?
  split
  · constructor
    · intro he
      cases he
      rfl
    · intro he
      exact congrArg some (ext he.symm)
  · rename_i h
    constructor
    · intro he
      cases he
    · intro he
      exact absurd (he ▸ ⟨t'.distinct, t'.checked⟩) h

theorem mem_update? {t t' : Relation ρ} {p : ρ → Bool} {f : ρ → ρ} {r : ρ}
    (h : t.update? p f = some t') : r ∈ t' ↔ ∃ r₀ ∈ t, (if p r₀ then f r₀ else r₀) = r := by
  rw [mem_def, update?_eq_some.1 h]
  exact List.mem_map

/-- `t'` is `t` with the row `old` turned into `new`; `old = new` when the statement was
not needed. -/
structure Replaced (t t' : Relation ρ) (old new : ρ) : Prop where
  old_mem : old ∈ t
  mem_iff : ∀ r, r ∈ t' ↔ r = new ∨ r ∈ t ∧ r ≠ old

theorem Replaced.new_mem {t t' : Relation ρ} {old new : ρ} (h : t.Replaced t' old new) :
    new ∈ t' := (h.mem_iff new).2 (.inl rfl)

theorem Replaced.mem_of_ne {t t' : Relation ρ} {old new r : ρ} (h : t.Replaced t' old new)
    (hr : r ∈ t) (hne : r ≠ old) : r ∈ t' := (h.mem_iff r).2 (.inr ⟨hr, hne⟩)

theorem Replaced.cases {t t' : Relation ρ} {old new r : ρ} (h : t.Replaced t' old new)
    (hr : r ∈ t') : r = new ∨ r ∈ t ∧ r ≠ old := (h.mem_iff r).1 hr

section Replace

variable [DecidableEq ρ]

/-- `UPDATE` of the row `old`, which the transaction read under its lock. -/
def replace? (t : Relation ρ) (old new : ρ) : Option (Relation ρ) :=
  t.update? (fun r => r = old) fun _ => new

theorem mem_replace? {t t' : Relation ρ} {old new r : ρ} (h : t.replace? old new = some t')
    (ho : old ∈ t) : r ∈ t' ↔ r = new ∨ r ∈ t ∧ r ≠ old := by
  rw [mem_update? h]
  constructor
  · rintro ⟨r₀, hr₀, he⟩
    by_cases hr : r₀ = old
    · left
      simpa [hr] using he.symm
    · right
      simp only [hr, decide_false, Bool.false_eq_true, if_false] at he
      exact ⟨he ▸ hr₀, he ▸ hr⟩
  · rintro (rfl | ⟨hr, hne⟩)
    · exact ⟨old, ho, by simp⟩
    · exact ⟨r, hr, by simp [hne]⟩

theorem new_mem_replace? {t t' : Relation ρ} {old new : ρ} (h : t.replace? old new = some t')
    (ho : old ∈ t) : new ∈ t' := (mem_replace? h ho).2 (.inl rfl)

theorem Replaced.of_replace? {t t' : Relation ρ} {old new : ρ} (h : t.replace? old new = some t')
    (ho : old ∈ t) : t.Replaced t' old new := ⟨ho, fun _ => mem_replace? h ho⟩

theorem Replaced.refl {t : Relation ρ} {r : ρ} (h : r ∈ t) : t.Replaced t r r where
  old_mem := h
  mem_iff x := by
    by_cases hx : x = r
    · simp [hx, h]
    · simp [hx]

/-- An update that keeps every key column can only fail its `CHECK`. -/
theorem replace?_isSome {t : Relation ρ} {old new : ρ} (hc : Schema.check new)
    (h : ∀ r ∈ t, r ≠ old → Row.apart r new) : ∃ t', t.replace? old new = some t' := by
  unfold replace? update?
  rw [dif_pos]
  · exact ⟨_, rfl⟩
  have himp : ∀ a ∈ t.rows, ∀ b ∈ t.rows, Row.apart a b →
      Row.apart (if a = old then new else a) (if b = old then new else b) := by
    intro a ha b hb hab
    by_cases hao : a = old <;> by_cases hbo : b = old
    · exact absurd hab (by rw [hao, hbo]; exact Row.irrefl _)
    · rw [if_pos hao, if_neg hbo]
      exact Row.symm (h b hb hbo)
    · rw [if_neg hao, if_pos hbo]
      exact h a ha hao
    · rw [if_neg hao, if_neg hbo]
      exact hab
  constructor
  · refine List.pairwise_map.2 ?_
    refine t.distinct.imp_of_mem fun ha hb hab => ?_
    simpa using himp _ ha _ hb hab
  · intro r hr
    obtain ⟨r₀, hr₀, rfl⟩ := List.mem_map.1 hr
    by_cases hro : r₀ = old
    · simpa [hro] using hc
    · simpa [hro] using t.checked r₀ hr₀

end Replace

/-- `DELETE FROM t WHERE p`. -/
def deleteWhere (t : Relation ρ) (p : ρ → Bool) : Relation ρ where
  rows := t.rows.filter fun r => !p r
  distinct := t.distinct.filter _
  checked r hr := t.checked r (List.mem_filter.1 hr).1

theorem mem_deleteWhere {t : Relation ρ} {p : ρ → Bool} {r : ρ} :
    r ∈ t.deleteWhere p ↔ r ∈ t ∧ p r = false := by
  simp [mem_def, deleteWhere]

end Relation
end AutomationTool
