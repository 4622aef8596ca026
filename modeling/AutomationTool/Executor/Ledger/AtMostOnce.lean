import AutomationTool.Executor.Ledger.Service

/-!
# An effect is dispatched at most once

Whatever callers do to one ledger, and in whatever order: a list of operations
is every interleaving of every set of callers, as each operation is one
transaction.

* `exec_sideEffects`, `exec_publishDispatches`: one operation moves every record
  along at most one arrow of `prepared → dispatched → verified | uncertain`. The
  bulk update of an emergency stop is one of them.
* `dispatch_once`: over a whole run, at most one `begin` per action and per
  publish job is a new grant, and a record's fingerprint, times and revision
  are those of its state.
-/
namespace AutomationTool.Executor.Ledger

open Protocol Dispatch

/-! ## One operation -/

theorem exec_sideEffects (I : Site) (o : Op) (s : Ledger) :
    Book.Along Record.Step s.sideEffects (exec I o s).2.sideEffects := by
  have h := exec_frame I o s
  generalize (exec I o s).2 = s' at h
  cases h with
  | effects h => exact h
  | stop P C g h => exact h
  | _ => exact Book.Along.refl step_refl _

theorem exec_publishDispatches (I : Site) (o : Op) (s : Ledger) :
    Book.Along Record.Step s.publishDispatches (exec I o s).2.publishDispatches := by
  have h := exec_frame I o s
  generalize (exec I o s).2 = s' at h
  cases h with
  | publishes h => exact h
  | _ => exact Book.Along.refl step_refl _

/-- Both books moved along the order of their records. -/
def BooksEvolve (s s' : Ledger) : Prop :=
  Book.Evolves s.sideEffects s'.sideEffects ∧ Book.Evolves s.publishDispatches s'.publishDispatches

theorem exec_booksEvolve (I : Site) (o : Op) (s : Ledger) : BooksEvolve s (exec I o s).2 :=
  ⟨(exec_sideEffects I o s).mono fun _ _ => Record.Step.evolves,
    (exec_publishDispatches I o s).mono fun _ _ => Record.Step.evolves⟩

theorem booksEvolve_after (I : Site) (s : Ledger) (os : List Op) :
    BooksEvolve s (after (exec I) s os) :=
  after_rel (fun _ => ⟨.refl Record.Evolves.refl _, .refl Record.Evolves.refl _⟩)
    (fun _ _ _ h h' => ⟨h.1.trans h'.1, h.2.trans h'.2⟩) (exec_booksEvolve I) s os

/-! ## Grants -/

/-- The call is a `begin_side_effect_dispatch` of `a` that returned a newly
dispatched effect. -/
def grantsEffect (a : ActionId) : Call Op Op.Ret → Bool
  | ⟨.beginSideEffectDispatch a' _ _, some r⟩ =>
    a' = a && r.value.record.state = .dispatched && !r.replayed
  | _ => false

/-- The same of `begin_publish_dispatch`. -/
def grantsPublish (j : PublishJobId) : Call Op Op.Ret → Bool
  | ⟨.beginPublishDispatch j' _ _ _, some r⟩ =>
    j' = j && r.value.state = .dispatched && !r.replayed
  | _ => false

/-- A new grant finds the record prepared and leaves it spent. -/
theorem grantsEffect_spends {I : Site} {o : Op} {s : Ledger} {a : ActionId}
    (h : grantsEffect a ⟨o, (exec I o s).1⟩ = true) :
    ¬Book.Spent s.sideEffects a ∧ Book.Spent (exec I o s).2.sideEffects a := by
  cases o
  case beginSideEffectDispatch a' f t =>
    dsimp only [exec] at h ⊢
    cases hb : s.beginSideEffectDispatch a' f t with
    | none => rw [hb] at h; cases h
    | some p =>
      obtain ⟨r, s'⟩ := p
      rw [hb] at h
      simp only [atomic_some, grantsEffect, Bool.and_eq_true, decide_eq_true_eq,
        Bool.not_eq_true'] at h
      obtain ⟨⟨rfl, -⟩, hr⟩ := h
      obtain ⟨x, hx, -, -, -, ⟨hr', -⟩ | ⟨-, hst, hle, -, -, -, -, -, rfl⟩⟩ :=
        beginSideEffectDispatch_some hb
      · rw [hr] at hr'
        cases hr'
      · constructor
        · rintro ⟨y, hy, hne⟩
          rw [show s.sideEffects.lookup a' = some x from hx] at hy
          cases hy
          exact hne hst
        · refine ⟨x.grant t, ?_, ?_⟩
          · dsimp only [atomic_some]
            rw [Book.lookup_sweep, show s.sideEffects.lookup a' = some x from hx]
            simp
          · rw [(Record.grant_of_prepared hst hle).1]
            nofun
  all_goals exact absurd h Bool.false_ne_true

theorem grantsPublish_spends {I : Site} {o : Op} {s : Ledger} {j : PublishJobId}
    (h : grantsPublish j ⟨o, (exec I o s).1⟩ = true) :
    ¬Book.Spent s.publishDispatches j ∧ Book.Spent (exec I o s).2.publishDispatches j := by
  cases o
  case beginPublishDispatch j' c t i =>
    dsimp only [exec] at h ⊢
    cases hb : s.beginPublishDispatch j' c t i with
    | none => rw [hb] at h; cases h
    | some p =>
      obtain ⟨r, s'⟩ := p
      rw [hb] at h
      simp only [atomic_some, grantsPublish, Bool.and_eq_true, decide_eq_true_eq,
        Bool.not_eq_true'] at h
      obtain ⟨⟨rfl, -⟩, hr⟩ := h
      obtain ⟨x, hx, ⟨hr', -⟩ | ⟨-, hst, hle, -, rfl⟩⟩ := beginPublishDispatch_some hb
      · rw [hr] at hr'
        cases hr'
      · constructor
        · rintro ⟨y, hy, hne⟩
          rw [hx] at hy
          cases hy
          exact hne hst
        · refine ⟨x.grant t, ?_, ?_⟩
          · dsimp only [atomic_some]
            rw [Book.lookup_sweep, hx]
            simp
          · rw [(Record.grant_of_prepared hst hle).1]
            nofun
  all_goals exact absurd h Bool.false_ne_true

/-! ## Whole runs -/

/-- Revision and times fit the state. -/
def SoundRecord (x : EffectRecord) : Prop :=
  (x.revision = match x.state with
    | .prepared => 1
    | .dispatched => 2
    | .verified | .uncertain => 3) ∧
  (∀ d, x.dispatchedAt = some d → x.preparedAt ≤ d) ∧
  ∀ t, x.settledAt = some t → ∃ d, x.dispatchedAt = some d ∧ d ≤ t

theorem soundRecord (x : EffectRecord) : SoundRecord x := ⟨x.revision_eq, x.times⟩

/-- **At-most-once dispatch.** In every run of any operations, in any order, from
a new ledger: each action and each publish job is newly granted at most once;
the next operation moves each record along at most one arrow of its state
machine; whatever follows never changes a fingerprint or a settled record; and
revision and times are those of the state. -/
theorem dispatch_once (I : Site) (os : List Op) :
    (∀ a, (replies (exec I) empty os).countP (grantsEffect a) ≤ 1) ∧
    (∀ j, (replies (exec I) empty os).countP (grantsPublish j) ≤ 1) ∧
    (∀ o, Book.Along Record.Step (after (exec I) empty os).sideEffects
        (after (exec I) empty (os ++ [o])).sideEffects ∧
      Book.Along Record.Step (after (exec I) empty os).publishDispatches
        (after (exec I) empty (os ++ [o])).publishDispatches) ∧
    (∀ os', BooksEvolve (after (exec I) empty os) (after (exec I) empty (os ++ os'))) ∧
    (∀ a x, (after (exec I) empty os).effect a = some x → SoundRecord x) ∧
    ∀ j x, Book.lookup (after (exec I) empty os).publishDispatches j = some x → SoundRecord x := by
  have hrun : (calls (fun _ => True) (exec I) fun _ _ => True).Run empty
      (replies (exec I) empty os) (after (exec I) empty os) :=
    run_replies _ (allOk_of_forall (fun _ _ _ => trivial) _)
  have hP : (calls (fun _ => True) (exec I) fun _ _ => True).Inductive fun _ => True :=
    ⟨fun _ _ => trivial, fun _ _ _ _ _ => trivial⟩
  refine ⟨fun a => ?_, fun j => ?_, fun o => ?_, fun os' => ?_, fun _ x _ => soundRecord x,
    fun _ x _ => soundRecord x⟩
  · refine (LTS.Run.countP_le_one hP (fun s => Book.Spent s.sideEffects a) _ ?_ ?_ hrun
      trivial).1
    · rintro s c s' - ⟨-, he⟩ hs
      have := hs.evolves (exec_booksEvolve I c.1 s).1
      rwa [he] at this
    · rintro s ⟨o, r⟩ s' - ⟨-, he⟩ hg
      have := @grantsEffect_spends I o s a
      rw [he] at this
      exact this hg
  · refine (LTS.Run.countP_le_one hP (fun s => Book.Spent s.publishDispatches j) _ ?_ ?_
      hrun trivial).1
    · rintro s c s' - ⟨-, he⟩ hs
      have := hs.evolves (exec_booksEvolve I c.1 s).2
      rwa [he] at this
    · rintro s ⟨o, r⟩ s' - ⟨-, he⟩ hg
      have := @grantsPublish_spends I o s j
      rw [he] at this
      exact this hg
  · rw [after_append]
    exact ⟨exec_sideEffects I o _, exec_publishDispatches I o _⟩
  · rw [after_append]
    exact booksEvolve_after I _ os'

end AutomationTool.Executor.Ledger
