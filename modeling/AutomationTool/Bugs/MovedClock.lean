import AutomationTool.Bugs.StaleAuthorization

/-!
# An admission is an exact replay only under a clock that stands still

Behaviour: `ExecutorActionGate.admit` (executor/
action_gate.py:107-139) takes `authorized_at` from the clock on every call, and
`_same_action_admission` (ledger.py:3359-3378) compares it with the stored
one. The second admission of an expectation is refused as soon as the clock has moved.

Evidence: `admit_action` promises an exact replay, the tests of the gate ask for one
under a frozen clock, and `ProductionDouyinActionOperation.run` admits an expectation
that `DouyinCommentActionExecution.run` (comment_action.py:285-312)
admits again.

Counterexample: the comment is admitted at second 2 and again one microsecond later.

* `replays_iff`: whatever the ledger did in between, the second admission is the replay
  of the first exactly when it reads the same authorization time.
-/
namespace AutomationTool.Bugs.MovedClock

open Executor Protocol Dispatch Ledger
open StaleAuthorization (Readmitted asks asks_readmitted readmitted_of_ok)

variable {I : Site} {s s' : Ledger} {gate : ExecutorActionGate}
  {expected : ActionAuthorizationExpectation} {r : Reply LocalActionAdmission}

/-- An admission that is stored stays. -/
theorem exec_admission (o : Op) {a : ActionId} {ad : LocalActionAdmission}
    (h : s.admission a = some ad) : (exec I o s).2.admission a = some ad := by
  have hframe := exec_frame I o s
  generalize (exec I o s).2 = s' at hframe
  cases hframe with
  | admissions hadm hr =>
    obtain ⟨-, ⟨hr', -⟩ | ⟨-, -, -, -, -, -, -, -, A, hA, heq⟩⟩ := admitAction_ok hadm
    · rw [hr] at hr'
      cases hr'
    · obtain ⟨hmem, hid⟩ := admission_eq_some.1 h
      rw [heq]
      exact admission_eq_some.2 ⟨(Table.mem_insert? hA).2 (.inl hmem), hid⟩
  | _ => exact h

theorem after_admission (ops : List Op) {a : ActionId} {ad : LocalActionAdmission}
    (h : s.admission a = some ad) : (after (exec I) s ops).admission a = some ad :=
  after_inv (P := fun s : Ledger => s.admission a = some ad) (fun o _ _ => exec_admission o) h

/-- Whoever is admitted is of this site, and the row carries the fingerprint. -/
theorem admitAction_own {claims : ActionAuthorizationClaims} {fp : Digest} {u : Time} {i n : Nat}
    (h : s.admitAction I claims fp u i n = .ok (r, s')) :
    claims.installationId = I.installationId ∧ claims.executorId = I.executorId ∧
      r.value.authorizationFingerprint = fp := by
  have hinsert : ∀ hd hl, admitAction.insert s claims fp u n hd hl = .ok (r, s') →
      r.value.authorizationFingerprint = fp := by
    intro hd hl hi
    unfold admitAction.insert at hi
    split at hi
    · cases hi
    · dsimp only at hi
      split at hi
      · cases hi
        rfl
      · cases hi
  unfold admitAction at h
  split at h
  · rename_i hguard
    refine ⟨hguard.1, hguard.2.1, ?_⟩
    split at h
    · cases h
    · split at h
      · split at h
        · rename_i hsame
          cases h
          exact hsame.2.2
        · cases h
      · split at h
        · split at h
          · cases h
          · split at h
            · cases h
            · exact hinsert _ _ h
        · exact hinsert _ _ h
  · cases h

/-- What an admission that is granted leaves in the ledger. -/
theorem admitted_of_ok {t u : Time} {i n : Nat}
    (h : s.admitAction I (expected.claims t) (.authorization expected.actionId) u i n =
      .ok (r, s')) :
    s'.admission expected.actionId = some r.value ∧
      r.value.toActionAuthorizationClaims = expected.claims t := by
  obtain ⟨-, ⟨-, rfl, hstored, hclaims, -⟩ | ⟨-, -, hclaims, -, -, -, -, -, A, hA, rfl⟩⟩ :=
    admitAction_ok h
  · exact ⟨hstored, hclaims⟩
  · refine ⟨admission_eq_some.2 ⟨(Table.mem_insert? hA).2 (.inr rfl), ?_⟩, hclaims⟩
    exact congrArg (·.actionId) hclaims

/-- **When a second admission replays the first.** For every ledger and expectation, clock
readings in order, and whatever operations the ledger was asked for in between: with the
latch released and before the stored deadline, the second call returns the same admission as
a replay, and leaves the ledger as it was, exactly when it takes the first call's clock
reading for its claims. -/
theorem replays_iff (ops : List Op) {t₁ u₁ t₂ u₂ : Time}
    (hfirst : (gate.admitExpected expected (some t₁) (some u₁)).run (exec I) s =
      (some (.ok r), s'))
    (hclock : t₁ ≤ u₁ ∧ u₁ ≤ t₂ ∧ t₂ ≤ u₂) (hdeadline : u₂ < r.value.deadlineAt)
    (hreleased : (after (exec I) s' ops).guard.engaged = false) :
    (gate.admitExpected expected (some t₂) (some u₂)).run (exec I) (after (exec I) s' ops) =
        (some (.ok ⟨r.value, true⟩), after (exec I) s' ops) ↔ t₂ = t₁ := by
  have hgranted : s.admitAction I (expected.claims t₁) (.authorization expected.actionId) u₁
      gate.policy.minimumIntervalSeconds gate.policy.taskActionLimit = .ok (r, s') := by
    rw [StaleAuthorization.admitExpected_run] at hfirst
    dsimp only [asks, exec] at hfirst
    cases hadm : s.admitAction I (expected.claims t₁) (.authorization expected.actionId) u₁
        gate.policy.minimumIntervalSeconds gate.policy.taskActionLimit with
    | error e =>
      rw [hadm] at hfirst
      cases e <;> cases hfirst
    | ok p =>
      rw [hadm] at hfirst
      cases hfirst
      rfl
  obtain ⟨hstored, hclaims⟩ := admitted_of_ok hgranted
  obtain ⟨hinstallation, hexecutor, hfp⟩ := admitAction_own hgranted
  have hstill := after_admission (I := I) ops hstored
  rw [StaleAuthorization.admitExpected_run]
  constructor
  · intro hreplay
    -- the stored claims are those of the second reading too
    cases hadm : (after (exec I) s' ops).admitAction I (expected.claims t₂)
        (.authorization expected.actionId) u₂ gate.policy.minimumIntervalSeconds
        gate.policy.taskActionLimit with
    | error e =>
      dsimp only [asks, exec] at hreplay
      rw [hadm] at hreplay
      cases e <;> cases hreplay
    | ok p =>
      have hagain := (readmitted_of_ok hstill hadm).claims
      rw [hclaims] at hagain
      exact (congrArg (·.authorizedAt) hagain).symm
  · rintro rfl
    have hdead : r.value.deadlineAt = t₂ + actionAuthorizationMaxLifetime :=
      congrArg (·.deadlineAt) hclaims
    have hreadmitted : Readmitted I (after (exec I) s' ops) expected r.value t₂ u₂ :=
      ⟨hreleased, ⟨hinstallation, hexecutor⟩, hclaims, hfp,
        Nat.le_trans hclock.2.2 (Nat.le_add_right _ _), hdead ▸ hdeadline⟩
    rw [asks_readmitted hstill hreadmitted]
    rfl

/-! ## A microsecond later -/

namespace Concrete

open Sample

/-- The comment is asked for at time `t`. -/
def ask (t : Time) (s : Ledger) :
    Option (Except ActionGateError (Reply LocalActionAdmission)) × Ledger :=
  (ExecutorActionGate.admitExpected ⟨policy⟩ Sample.expected (some t) (some t)).run (exec site) s

def refusesAgain : Bool :=
  match ask (seconds 2) started with
  | (some (.ok r), s') => decide (seconds 2 + 1 < r.value.deadlineAt ∧
      s'.guard.engaged = false ∧ (ask (seconds 2 + 1) s').1 = some (.error .rejected))
  | _ => false

theorem granted : ∃ r s', ask (seconds 2) started = (some (.ok r), s') ∧
    seconds 2 + 1 < r.value.deadlineAt ∧ s'.guard.engaged = false ∧
      (ask (seconds 2 + 1) s').1 = some (.error .rejected) := by
  have hrun : refusesAgain = true := by decide +kernel
  unfold refusesAgain at hrun
  split at hrun
  · rename_i r s' hask
    exact ⟨r, s', hask, of_decide_eq_true hrun⟩
  · cases hrun

/-- At the same clock reading the second admission is a replay. -/
theorem replayed_at_once : ∃ r s', ask (seconds 2) started = (some (.ok r), s') ∧
    ask (seconds 2) s' = (some (.ok ⟨r.value, true⟩), s') := by
  obtain ⟨r, s', hask, hdeadline, hreleased, -⟩ := granted
  exact ⟨r, s', hask, (replays_iff [] hask ⟨Nat.le_refl _, Nat.le_refl _, Nat.le_refl _⟩
    (Nat.lt_of_succ_lt hdeadline) hreleased).2 rfl⟩

/-- **Counterexample**: a microsecond later it is refused. -/
theorem refused_later : ¬∀ (I : Site) (gate : ExecutorActionGate)
    (expected : ActionAuthorizationExpectation) (s s' : Ledger) (r : Reply LocalActionAdmission)
    (t u : Time), t ≤ u →
      (gate.admitExpected expected (some t) (some t)).run (exec I) s = (some (.ok r), s') →
      u < r.value.deadlineAt → s'.guard.engaged = false →
        (gate.admitExpected expected (some u) (some u)).run (exec I) s' =
          (some (.ok ⟨r.value, true⟩), s') := by
  intro h
  obtain ⟨r, s', hask, hdeadline, hreleased, hrefused⟩ := granted
  have hreplay := h site ⟨policy⟩ Sample.expected started s' r (seconds 2) (seconds 2 + 1)
    (Nat.le_succ _) hask hdeadline hreleased
  have hsecond : (ask (seconds 2 + 1) s').1 = some (.ok ⟨r.value, true⟩) :=
    congrArg Prod.fst hreplay
  rw [hrefused] at hsecond
  cases hsecond

end Concrete

end AutomationTool.Bugs.MovedClock
