import AutomationTool.Core.Table

/-!
# Write-ahead records of an effect that must not happen twice

An external effect that cannot be undone is bracketed by a durable record:
`prepared` before anything happened, `dispatched` when one caller was granted
permission to perform it, `verified` or `uncertain` once its outcome is known.
`Record` carries the table's `CHECK` as a field, so a record whose revision,
times or verification do not fit its state cannot be built.

A `Book` is a table of such records, one per key. It changes by `prepare?`
(insert), and by `sweep`, an `UPDATE` that applies `grant` or `settle` to the
records a condition selects, one or many.

* `Record.Step`: what one update may do to one record; `grant_step` and
  `settle_step` say that both obey it.
* `Record.Evolves`: the preorder a record moves along over a run. The intent,
  the prepare time and a dispatch time once set never change, and a settled
  record never changes again.
* `Book.Evolves`: the same of every record of a book.
-/
namespace AutomationTool.Dispatch

inductive State where
  | prepared | dispatched | verified | uncertain
  deriving DecidableEq, Repr

/-- The outcome is recorded: nothing may change any more. -/
def State.settled : State → Bool
  | .verified | .uncertain => true
  | _ => false

/-- The settled state a verification, or its absence, stands for. -/
def State.outcome {ν : Type} : Option ν → State
  | some _ => .verified
  | none => .uncertain

/-- The table's `CHECK`: revision, times and verification as the state has them. -/
def Check {ν : Type} (state : State) (preparedAt : Nat) (dispatchedAt settledAt : Option Nat)
    (verification : Option ν) (revision : Nat) : Prop :=
  match state, dispatchedAt, settledAt with
  | .prepared, none, none => revision = 1 ∧ verification = none
  | .dispatched, some d, none => revision = 2 ∧ preparedAt ≤ d ∧ verification = none
  | .verified, some d, some t =>
    revision = 3 ∧ preparedAt ≤ d ∧ d ≤ t ∧ verification.isSome = true
  | .uncertain, some d, some t => revision = 3 ∧ preparedAt ≤ d ∧ d ≤ t ∧ verification = none
  | _, _, _ => False

/-- One record: `φ` is what was prepared, `ν` the proof that it happened. -/
structure Record (φ ν : Type) where
  intent : φ
  state : State
  preparedAt : Nat
  dispatchedAt : Option Nat
  settledAt : Option Nat
  verification : Option ν
  revision : Nat
  check : Check state preparedAt dispatchedAt settledAt verification revision
  deriving DecidableEq

namespace Record

variable {φ ν : Type}

/-- What the `CHECK` says of the times, whatever the state. -/
theorem times (r : Record φ ν) :
    (∀ d, r.dispatchedAt = some d → r.preparedAt ≤ d) ∧
      ∀ t, r.settledAt = some t → ∃ d, r.dispatchedAt = some d ∧ d ≤ t := by
  obtain ⟨i, s, p, d, t, v, n, h⟩ := r
  unfold Check at h
  split at h
  case h_5 => exact h.elim
  all_goals simp_all

theorem revision_eq (r : Record φ ν) :
    r.revision = match r.state with
      | .prepared => 1
      | .dispatched => 2
      | .verified | .uncertain => 3 := by
  obtain ⟨i, s, p, d, t, v, n, h⟩ := r
  unfold Check at h
  split at h
  case h_5 => exact h.elim
  all_goals simp_all

theorem dispatchedAt_of_dispatched (r : Record φ ν) (h : r.state = .dispatched) :
    ∃ d, r.dispatchedAt = some d ∧ r.preparedAt ≤ d ∧ r.settledAt = none ∧
      r.verification = none ∧ r.revision = 2 := by
  obtain ⟨i, s, p, d, t, v, n, hc⟩ := r
  cases h
  unfold Check at hc
  split at hc <;> simp_all

def prepare (intent : φ) (at_ : Nat) : Record φ ν where
  intent := intent
  state := .prepared
  preparedAt := at_
  dispatchedAt := none
  settledAt := none
  verification := none
  revision := 1
  check := ⟨rfl, rfl⟩

/-- Permission to perform the effect, given out of `prepared` only. -/
def grant (at_ : Nat) (r : Record φ ν) : Record φ ν :=
  if h : r.state = .prepared ∧ r.preparedAt ≤ at_ then
    { r with
      state := .dispatched
      dispatchedAt := some at_
      settledAt := none
      verification := none
      revision := 2
      check := ⟨rfl, h.2, rfl⟩ }
  else r

/-- The outcome, out of `dispatched` only: verified with a proof, uncertain without. -/
def settle (verification : Option ν) (at_ : Nat) (r : Record φ ν) : Record φ ν :=
  match hd : r.dispatchedAt with
  | none => r
  | some d =>
    if h : r.state = .dispatched ∧ d ≤ at_ then
      match verification with
      | some v =>
        { r with
          state := .verified
          settledAt := some at_
          verification := some v
          revision := 3
          check := by rw [hd]; exact ⟨rfl, r.times.1 d hd, h.2, rfl⟩ }
      | none =>
        { r with
          state := .uncertain
          settledAt := some at_
          verification := none
          revision := 3
          check := by rw [hd]; exact ⟨rfl, r.times.1 d hd, h.2, rfl⟩ }
    else r

@[simp] theorem prepare_state (i : φ) (t : Nat) : (prepare i t : Record φ ν).state = .prepared := rfl

@[simp] theorem prepare_intent (i : φ) (t : Nat) : (prepare i t : Record φ ν).intent = i := rfl

theorem grant_of_prepared {r : Record φ ν} {t : Nat} (hs : r.state = .prepared)
    (ht : r.preparedAt ≤ t) :
    (r.grant t).state = .dispatched ∧ (r.grant t).dispatchedAt = some t := by
  rw [grant, dif_pos ⟨hs, ht⟩]
  exact ⟨rfl, rfl⟩

/-- `settle` acts on a record that is dispatched no later than the settlement. -/
theorem settle_of_dispatched {r : Record φ ν} {v : Option ν} {t d : Nat}
    (hs : r.state = .dispatched) (hd : r.dispatchedAt = some d) (ht : d ≤ t) :
    (r.settle v t).state = State.outcome v ∧
      (r.settle v t).settledAt = some t ∧ (r.settle v t).verification = v := by
  unfold settle
  split
  · rename_i h
    rw [hd] at h
    cases h
  · rename_i d' h
    rw [hd] at h
    cases h
    rw [dif_pos ⟨hs, ht⟩]
    cases v <;> exact ⟨rfl, rfl, rfl⟩

theorem settle_of_not_dispatched {r : Record φ ν} {v : Option ν} {t : Nat}
    (hs : r.state ≠ .dispatched) : r.settle v t = r := by
  unfold settle
  split
  · rfl
  · rw [dif_neg fun h => hs h.1]

/-- A settlement dated before the dispatch does nothing. -/
theorem settle_of_early {r : Record φ ν} {v : Option ν} {t d : Nat}
    (hd : r.dispatchedAt = some d) (ht : t < d) : r.settle v t = r := by
  unfold settle
  split
  · rfl
  · rename_i d' h
    rw [hd] at h
    cases h
    rw [dif_neg fun h => absurd h.2 (Nat.not_le.2 ht)]

/-! ## What an update may do -/

/-- The arrows of the state machine. -/
inductive Next : State → State → Prop where
  | grant : Next .prepared .dispatched
  | verify : Next .dispatched .verified
  | doubt : Next .dispatched .uncertain

/-- The order a record moves along over any number of updates. -/
structure Evolves (r r' : Record φ ν) : Prop where
  intent : r'.intent = r.intent
  preparedAt : r'.preparedAt = r.preparedAt
  dispatchedAt : ∀ d, r.dispatchedAt = some d → r'.dispatchedAt = some d
  spent : r.state ≠ .prepared → r'.state ≠ .prepared
  settled : r.state.settled = true → r' = r

/-- One update: nothing, or one arrow along `Evolves`. -/
def Step (r r' : Record φ ν) : Prop := r' = r ∨ Next r.state r'.state ∧ r.Evolves r'

theorem Evolves.refl (r : Record φ ν) : r.Evolves r :=
  ⟨rfl, rfl, fun _ h => h, fun h => h, fun _ => rfl⟩

theorem Evolves.trans {a b c : Record φ ν} (h₁ : a.Evolves b) (h₂ : b.Evolves c) :
    a.Evolves c where
  intent := h₂.intent.trans h₁.intent
  preparedAt := h₂.preparedAt.trans h₁.preparedAt
  dispatchedAt d h := h₂.dispatchedAt d (h₁.dispatchedAt d h)
  spent h := h₂.spent (h₁.spent h)
  settled h := by
    have hb := h₁.settled h
    rw [← hb] at h
    exact (h₂.settled h).trans hb

theorem Step.evolves {r r' : Record φ ν} (h : r.Step r') : r.Evolves r' := by
  rcases h with rfl | h
  · exact .refl _
  · exact h.2

theorem grant_step (r : Record φ ν) (t : Nat) : r.Step (r.grant t) := by
  unfold grant
  split
  · rename_i h
    have hc := r.check
    rw [h.1] at hc
    refine .inr ⟨by rw [h.1]; exact .grant, rfl, rfl, fun d hd => ?_, fun _ => nofun, fun hs => ?_⟩
    · rw [hd] at hc
      exact hc.elim
    · rw [h.1] at hs
      cases hs
  · exact .inl rfl

theorem settle_step (r : Record φ ν) (v : Option ν) (t : Nat) : r.Step (r.settle v t) := by
  unfold settle
  split
  · exact .inl rfl
  · rename_i d hd
    split
    · rename_i h
      have hset : r.state.settled = true → False := by rw [h.1]; nofun
      cases v with
      | some v =>
        exact .inr ⟨by rw [h.1]; exact .verify, rfl, rfl, fun _ hd => hd, fun _ => nofun,
          fun hs => (hset hs).elim⟩
      | none =>
        exact .inr ⟨by rw [h.1]; exact .doubt, rfl, rfl, fun _ hd => hd, fun _ => nofun,
          fun hs => (hset hs).elim⟩
    · exact .inl rfl

end Record

/-! ## Books of records -/

structure Entry (κ φ ν : Type) where
  key : κ
  record : Record φ ν
  deriving DecidableEq

instance {κ φ ν : Type} [DecidableEq κ] : Row (Entry κ φ ν) where
  apart a b := a.key ≠ b.key
  symm h := Ne.symm h
  irrefl _ h := h rfl
  dec _ _ := inferInstanceAs (Decidable (_ ≠ _))

/-- At most one record per key. -/
abbrev Book (κ φ ν : Type) [DecidableEq κ] := Table (Entry κ φ ν)

namespace Book

variable {κ φ ν : Type} [DecidableEq κ]

def lookup (b : Book κ φ ν) (k : κ) : Option (Record φ ν) :=
  (b.find? fun e => e.key = k).map Entry.record

/-- The write-ahead insert. -/
def prepare? (b : Book κ φ ν) (k : κ) (intent : φ) (at_ : Nat) : Option (Book κ φ ν) :=
  b.insert? ⟨k, .prepare intent at_⟩

theorem keepsKeys_record (f : Record φ ν → Record φ ν) :
    Table.KeepsKeys fun e : Entry κ φ ν => { e with record := f e.record } := fun _ _ => Iff.rfl

/-- `UPDATE … SET f WHERE p(key)`, on the record columns. -/
def sweep (b : Book κ φ ν) (p : κ → Bool) (f : Record φ ν → Record φ ν) : Book κ φ ν :=
  b.updateWhere (fun e => p e.key) _ (keepsKeys_record f)

theorem selects_key (k : κ) : Table.Selects fun e : Entry κ φ ν => e.key = k := by
  intro a b ha hb hab
  exact hab ((of_decide_eq_true ha).trans (of_decide_eq_true hb).symm)

theorem lookup_eq_some {b : Book κ φ ν} {k : κ} {r : Record φ ν} :
    b.lookup k = some r ↔ ⟨k, r⟩ ∈ b := by
  unfold lookup
  constructor
  · intro h
    obtain ⟨e, he, hr⟩ := Option.map_eq_some_iff.1 h
    obtain ⟨hm, hk⟩ := Table.mem_of_find? he
    rw [← of_decide_eq_true hk, ← hr]
    exact hm
  · intro h
    rw [(Table.find?_eq_some_iff (selects_key k)).2 ⟨h, decide_eq_true rfl⟩]
    rfl

@[simp] theorem lookup_empty (k : κ) : lookup (Table.empty : Book κ φ ν) k = none := rfl

theorem lookup_sweep (b : Book κ φ ν) (p : κ → Bool) (f : Record φ ν → Record φ ν) (k : κ) :
    (b.sweep p f).lookup k = (b.lookup k).map fun r => if p k then f r else r := by
  unfold lookup sweep
  rw [Table.find?_updateWhere (keepsKeys_record f) fun _ => rfl, Option.map_map, Option.map_map]
  cases h : b.find? fun e => e.key = k with
  | none => rfl
  | some e =>
    have hk : e.key = k := of_decide_eq_true (Table.mem_of_find? h).2
    simp only [Option.map_some, Function.comp, hk]
    split <;> rfl

/-- An update that leaves the selected record as it is leaves the book as it is. -/
theorem sweep_eq_self {b : Book κ φ ν} {k : κ} {f : Record φ ν → Record φ ν}
    (h : ∀ r, b.lookup k = some r → f r = r) : b.sweep (· = k) f = b := by
  refine Table.ext ?_
  unfold sweep Table.updateWhere
  refine (List.map_congr_left fun e he => ?_).trans (List.map_id _)
  by_cases hk : e.key = k
  · obtain ⟨k', r⟩ := e
    dsimp only at hk
    subst hk
    simp [h r (lookup_eq_some.2 he)]
  · simp [hk]

/-- Every record of `b` is in `b'`, moved along `R`. -/
def Along (R : Record φ ν → Record φ ν → Prop) (b b' : Book κ φ ν) : Prop :=
  ∀ k r, b.lookup k = some r → ∃ r', b'.lookup k = some r' ∧ R r r'

/-- Every record moved along `Record.Evolves`. -/
abbrev Evolves (b b' : Book κ φ ν) : Prop := b.Along Record.Evolves b'

theorem Along.refl {R : Record φ ν → Record φ ν → Prop} (hR : ∀ r, R r r) (b : Book κ φ ν) :
    b.Along R b := fun _ r h => ⟨r, h, hR r⟩

theorem Along.mono {R S : Record φ ν → Record φ ν → Prop} (hRS : ∀ r r', R r r' → S r r')
    {b b' : Book κ φ ν} (h : b.Along R b') : b.Along S b' := by
  intro k r hr
  obtain ⟨r', hr', hS⟩ := h k r hr
  exact ⟨r', hr', hRS _ _ hS⟩

theorem Evolves.trans {a b c : Book κ φ ν} (h₁ : a.Evolves b) (h₂ : b.Evolves c) :
    a.Evolves c := by
  intro k r hr
  obtain ⟨r', hr', h⟩ := h₁ k r hr
  obtain ⟨r'', hr'', h'⟩ := h₂ k r' hr'
  exact ⟨r'', hr'', h.trans h'⟩

theorem prepare?_along {R : Record φ ν → Record φ ν → Prop} (hR : ∀ r, R r r)
    {b b' : Book κ φ ν} {k : κ} {i : φ} {t : Nat} (h : b.prepare? k i t = some b') :
    b.Along R b' := fun _ r hr => ⟨r, by
  rw [lookup_eq_some] at hr ⊢
  exact (Table.mem_insert? h).2 (.inl hr), hR r⟩

theorem sweep_along {R : Record φ ν → Record φ ν → Prop} (hR : ∀ r, R r r)
    {f : Record φ ν → Record φ ν} (hf : ∀ r, R r (f r)) (b : Book κ φ ν) (p : κ → Bool) :
    b.Along R (b.sweep p f) := by
  intro k r hr
  refine ⟨_, by rw [lookup_sweep, hr]; rfl, ?_⟩
  split
  · exact hf r
  · exact hR r

/-- The key was granted before. -/
def Spent (b : Book κ φ ν) (k : κ) : Prop := ∃ r, b.lookup k = some r ∧ r.state ≠ .prepared

theorem Spent.evolves {b b' : Book κ φ ν} {k : κ} (h : b.Spent k) (he : b.Evolves b') :
    b'.Spent k := by
  obtain ⟨r, hr, hs⟩ := h
  obtain ⟨r', hr', hev⟩ := he k r hr
  exact ⟨r', hr', hev.spent hs⟩

end Book
end AutomationTool.Dispatch
