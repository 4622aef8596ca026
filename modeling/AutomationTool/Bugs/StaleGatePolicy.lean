import AutomationTool.Executor.ActionGate

/-!
# A gate keeps enforcing the policy it was constructed with

Behaviour (action_gate.py:88-103,119-135):
`ExecutorActionGate` binds its policy once, in its constructor, and hands its own
copy to every `admit_action`. `admit_action` (ledger.py:452-597) checks
the two numbers it is given and never reads `executor_action_policy`. When another
gate, or `bind_action_hard_policy` itself, tightens the persisted policy later,
the first gate goes on admitting under the looser one.

Evidence: README A7-04, the local minimum interval and task action limit "only
become stricter" once persisted, and a missing or damaged policy refuses.

Counterexample: a gate with interval 1 s and limit 100, then a gate with interval
3600 s and limit 1; the first gate admits two comments of one task two seconds
apart.

`admissions_respect_policy`: in every run whose admissions all go through gates
that hold the persisted policy, each admission keeps within it. What does not
depend on the copy holds in every run: times, ordinals, and that the persisted
policy is only tightened.
-/
namespace AutomationTool.Bugs.StaleGatePolicy

open Executor Protocol Ledger

/-- The admission `r`, granted when the ledger was `s`, keeps within the policy `p`. -/
structure Respects (s s' : Ledger) (p : LocalActionHardPolicyBinding)
    (r : LocalActionAdmission) : Prop where
  interval : ∀ x ∈ s.scope r.installationId r.action,
    x.admittedAt + seconds p.minimumIntervalSeconds ≤ r.admittedAt
  limit : (s'.taskScope r.taskId r.action).length ≤ p.taskActionLimit

/-- What the gates promise of a step: an admission newly granted in it keeps within
the policy persisted at that moment. -/
def Enforced (s : Gates) (l : GateLabel) (s' : Gates) : Prop :=
  ∀ i e t u r, l = .admission i e t u (some r) →
    ∃ p, s.ledger.policy = some p ∧ Respects s.ledger s'.ledger p r

/-- The gate that is asked holds the persisted policy. -/
def UpToDate (l : GateLabel) (s : Gates) : Prop :=
  ∀ i e t u g, l = .admission i e t u g → ∀ gate, s.gates[i]? = some gate →
    s.ledger.policy = some gate.policy

theorem enforced_of_upToDate {I : Site} {s s' : Gates} {l : GateLabel} (h : GateStep I s l s')
    (hl : UpToDate l s) : Enforced s l s' := by
  intro i e t u r hlab
  obtain ⟨hno, -⟩ | ⟨-, i', e', t', u', g, gate, rfl, hi, ⟨rfl, -⟩ | ⟨now, later, a, -, -, rfl, hr, ha⟩⟩ :=
    h.inv
  · exact absurd hlab (hno _ _ _ _ _)
  · cases hlab
  · cases hlab
    refine ⟨gate.policy, hl _ _ _ _ _ rfl gate hi, ?_⟩
    obtain ⟨-, ⟨hr', -⟩ | ⟨-, -, hcl, hat, hinst, hlate, hcount, -, A, hA, hL⟩⟩ := admitAction_ok ha
    · rw [hr] at hr'
      cases hr'
    rw [← hcl] at hinst hlate hcount
    refine ⟨fun x hx => ?_, ?_⟩
    · obtain ⟨latest, hl, hle⟩ := le_latestAdmittedAt hx
      rw [hinst] at hl
      obtain ⟨hle', hgap⟩ := hlate latest hl
      rw [hat]
      exact (Nat.add_le_add_right hle _).trans (Nat.add_le_of_le_sub' hle' hgap)
    · rw [hL]
      unfold taskScope
      dsimp only
      rw [filter_insert hA]
      rw [taskActionCount_eq] at hcount
      unfold taskScope at hcount
      simp only [decide_true, and_self, if_true, List.length_append, List.length_singleton]
      exact hcount

/-- **Admissions keep within the persisted policy while no gate is out of date.**
In every run whose admissions all go through a gate that holds the persisted
policy, every admission newly granted by a further such step is at least the
persisted interval after every earlier one of its installation and action, and
within the persisted limit of its task and action. In every run at all, admission
times never decrease, ordinals are `1, …, k`, and the policy is only tightened. -/
theorem admissions_respect_policy (I : Site) :
    (∀ s l s', ((gates I).restrict UpToDate).Reachable s →
      ((gates I).restrict UpToDate).step s l s' → Enforced s l s') ∧
    (∀ s, (gates I).Reachable s → AdmissionsSound I s.ledger) ∧
    ∀ s ls s', (gates I).Run s ls s' → PolicyTightens s s' :=
  ⟨fun _ _ _ _ h => enforced_of_upToDate h.1 h.2, fun _ h => admissions_sound h,
    fun _ _ _ h => policy_tightens h⟩

/-! ## Two gates -/

def site : Site := ⟨1, 1, fun _ => 0⟩

def loose : LocalActionHardPolicyBinding :=
  ⟨1, 100, Nat.one_pos, by decide, by decide, by decide⟩

def strict : LocalActionHardPolicyBinding :=
  ⟨3600, 1, by decide, by decide, Nat.one_pos, by decide⟩

/-- A comment of task 1. -/
theorem own_key (a : ActionId) : IdempotencyKey.action a = .action a := rfl

def comment (a : ActionId) : ActionAuthorizationExpectation where
  actionId := a
  targetId := 1
  executionAttemptId := 1
  taskId := 1
  installationId := 1
  executorId := 1
  action := .comment
  idempotencyKey := .action a
  key_action := own_key a

/-- Only the strict gate. -/
def strictOnly : Gates := ⟨(exec site (.bindActionHardPolicy strict) .empty).2, [⟨strict⟩]⟩

/-- The strict gate admits its one comment, within the policy it persisted. -/
theorem strict_gate_admits : ∃ r, ∃ s', ((gates site).restrict UpToDate).step strictOnly
    (.admission 0 (comment 1) (some 0) (some 0) (some r)) s' ∧
    Respects strictOnly.ledger s'.ledger strict r := by
  have hinit : ((gates site).restrict UpToDate).Reachable strictOnly :=
    (LTS.Reachable.of_init rfl).next ⟨construct_step site _ strict, nofun⟩
  have hup : UpToDate (.admission 0 (comment 1) (some 0) (some 0) (newlyGranted
      (((⟨strict⟩ : ExecutorActionGate).admitExpected (comment 1) (some 0) (some 0)).run (exec site)
        strictOnly.ledger).1)) strictOnly := by
    intro i e t u g hl gate hg
    cases hl
    cases hg
    rfl
  have hstep := admission_step site (s := strictOnly) (i := 0) rfl (comment 1) (some 0) (some 0)
  obtain ⟨p, hp, hr⟩ := (admissions_respect_policy site).1 _ _ _ hinit ⟨hstep, hup⟩ _ _ _ _ _ rfl
  have hstrict : p = strict := Option.some.inj (hp.symm.trans rfl)
  subst hstrict
  exact ⟨_, _, ⟨hstep, hup⟩, hr⟩

/-- Both gates are constructed, the loose one first. -/
def constructed : Gates :=
  ⟨(exec site (.bindActionHardPolicy strict) (exec site (.bindActionHardPolicy loose) .empty).2).2,
    [⟨loose⟩, ⟨strict⟩]⟩

/-- The loose gate admitted one comment. -/
def admittedOnce : Gates :=
  ⟨(((⟨loose⟩ : ExecutorActionGate).admitExpected (comment 1) (some 0) (some 0)).run (exec site)
    constructed.ledger).2, constructed.gates⟩

theorem constructed_reachable : (gates site).Reachable constructed :=
  ((LTS.Reachable.of_init rfl).next (construct_step site _ loose)).next (construct_step site _ strict)

theorem admittedOnce_reachable : (gates site).Reachable admittedOnce :=
  constructed_reachable.next (admission_step site (i := 0) rfl (comment 1) (some 0) (some 0))

/-- **Counterexample**: two seconds later the loose gate admits a second comment,
against an interval of an hour and a limit of one. -/
theorem stale_gate_admits : ¬∀ s l s', (gates site).Reachable s → (gates site).step s l s' →
    Enforced s l s' := by
  intro h
  have hstep := admission_step site (s := admittedOnce) (i := 0) rfl (comment 2)
    (some (seconds 2)) (some (seconds 2))
  obtain ⟨p, hp, hr⟩ := h _ _ _ admittedOnce_reachable hstep 0 (comment 2) _ _ _ rfl
  have hstrict : p = strict := Option.some.inj (hp.symm.trans rfl)
  subst hstrict
  exact absurd hr.limit (by decide)

end AutomationTool.Bugs.StaleGatePolicy
