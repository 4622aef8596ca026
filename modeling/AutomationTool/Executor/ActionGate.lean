import AutomationTool.Executor.Ledger.Service

/-!
# The action gate

The one way to a platform action. A gate binds its hard policy to the ledger when
it is constructed and keeps what the ledger answered; every admission it asks for
carries that copy, and claims whose authorization time is a fresh clock reading.

`gates` is any number of gates on one ledger. Of every run of it:

* `admissions_sound`: admission times never decrease within an installation and
  action, and the admissions of a task and action have ordinals `1, 2, …, k`;
* `policy_tightens`: the persisted policy is only ever tightened.
-/
namespace AutomationTool.Executor

open Protocol Dispatch Ledger

/-- mirrors executor/action_authorization.py:31-57 -/
@[ext] structure ActionAuthorizationExpectation where
  actionId : ActionId
  targetId : TargetId
  executionAttemptId : ExecutionAttemptId
  taskId : TaskId
  installationId : InstallationId
  executorId : ExecutorId
  action : DouyinSearchExposureAction
  idempotencyKey : IdempotencyKey
  key_action : idempotencyKey = .action actionId

instance : DecidableEq ActionAuthorizationExpectation := fun _ _ => decidable_of_iff' _ ActionAuthorizationExpectation.ext_iff

/-- The claims a gate writes for an expectation: authorized when the clock is read. -/
def ActionAuthorizationExpectation.claims (expected : ActionAuthorizationExpectation)
    (now : Time) : ActionAuthorizationClaims where
  actionId := expected.actionId
  targetId := expected.targetId
  executionAttemptId := expected.executionAttemptId
  taskId := expected.taskId
  installationId := expected.installationId
  executorId := expected.executorId
  action := expected.action
  idempotencyKey := expected.idempotencyKey
  authorizedAt := now
  deadlineAt := now + actionAuthorizationMaxLifetime
  key_action := expected.key_action
  authorized_lt := Nat.lt_add_of_pos_right (by decide)
  lifetime_le := Nat.le_of_eq (Nat.add_sub_cancel_left now _)

/-- mirrors action_gate.py:26-41 -/
inductive ActionGateError where
  | limited (reason : ActionAdmissionLimitReason)
  | rejected
  deriving DecidableEq, Repr

structure ExecutorActionGate where
  policy : LocalActionHardPolicyBinding
  deriving DecidableEq

namespace ExecutorActionGate

/-- mirrors action_gate.py:77-103 -/
def new (policy : LocalActionHardPolicyBinding) : Prog Op Op.Ret ExecutorActionGate := do
  let binding ← Prog.op (.bindActionHardPolicy policy)
  pure ⟨binding⟩

/-- What the gate makes of the ledger's answer. -/
def answer : Except AdmissionError (Reply LocalActionAdmission) →
    Except ActionGateError (Reply LocalActionAdmission)
  | .ok r => .ok r
  | .error (.limited reason) => .error (.limited reason)
  | .error .rejected => .error .rejected

/-- `ExecutorActionGate.admit`, with its two clock readings; a reading that
raises refuses the admission.
mirrors action_gate.py:108-139 -/
def admitExpected (gate : ExecutorActionGate) (expected : ActionAuthorizationExpectation)
    (authorizedAt admittedAt : Option Time) :
    Prog Op Op.Ret (Except ActionGateError (Reply LocalActionAdmission)) :=
  match authorizedAt, admittedAt with
  | some now, some later => do
    let r ← Prog.op (.admitAction (expected.claims now) (.authorization expected.actionId) later
      gate.policy.minimumIntervalSeconds gate.policy.taskActionLimit)
    pure (answer r)
  | _, _ => pure (.error .rejected)

end ExecutorActionGate

/-! ## Admissions -/

namespace Ledger

/-- The admissions of an installation and action, in the order they were granted. -/
def scope (s : Ledger) (i : InstallationId) (a : DouyinSearchExposureAction) :
    List LocalActionAdmission :=
  s.admissions.rows.filter fun r => r.installationId = i ∧ r.action = a

/-- The admissions of a task and action, in the order they were granted. -/
def taskScope (s : Ledger) (t : TaskId) (a : DouyinSearchExposureAction) :
    List LocalActionAdmission :=
  s.admissions.rows.filter fun r => r.taskId = t ∧ r.action = a

structure AdmissionsSound (I : Site) (s : Ledger) : Prop where
  own : ∀ r ∈ s.admissions, r.installationId = I.installationId
  times : ∀ i a, (s.scope i a).Pairwise fun x y => x.admittedAt ≤ y.admittedAt
  ordinals : ∀ t a, (s.taskScope t a).map (·.taskActionOrdinal) =
    List.range' 1 (s.taskScope t a).length

theorem taskActionCount_eq (s : Ledger) (t : TaskId) (a : DouyinSearchExposureAction) :
    s.taskActionCount t a = (s.taskScope t a).length := List.countP_eq_length_filter

/-- No admission of a scope is later than the latest. -/
theorem le_latestAdmittedAt {s : Ledger} {i : InstallationId} {a : DouyinSearchExposureAction}
    {r : LocalActionAdmission} (hr : r ∈ s.scope i a) :
    ∃ l, s.latestAdmittedAt i a = some l ∧ r.admittedAt ≤ l := by
  have hmem : r.admittedAt ∈ (s.scope i a).map (·.admittedAt) := List.mem_map_of_mem hr
  cases hl : ((s.scope i a).map (·.admittedAt)).max? with
  | none =>
    rw [List.max?_eq_none_iff] at hl
    rw [hl] at hmem
    cases hmem
  | some l => exact ⟨l, hl, (List.max?_eq_some_iff.1 hl).2 _ hmem⟩

theorem filter_insert {t A : Table LocalActionAdmission} {r : LocalActionAdmission}
    (hA : t.insert? r = some A) (p : LocalActionAdmission → Bool) :
    A.rows.filter p = if p r then t.rows.filter p ++ [r] else t.rows.filter p := by
  rw [Table.insert?_rows hA, List.filter_append]
  by_cases hp : p r = true <;> simp [hp]

/-- A newly granted admission stands after its scope, with the next ordinal. -/
theorem admissionsSound_insert {I : Site} {s : Ledger} (hs : AdmissionsSound I s)
    {claims : ActionAuthorizationClaims} {fp : Digest} {t : Time} {i n : Nat} {s' : Ledger}
    {r : Reply LocalActionAdmission} (h : s.admitAction I claims fp t i n = .ok (r, s'))
    (hr : r.replayed = false) : AdmissionsSound I s' := by
  obtain ⟨-, ⟨hr', -⟩ | ⟨-, -, hcl, hat, hinst, hlate, -, hord, A, hA, rfl⟩⟩ := admitAction_ok h
  · rw [hr] at hr'
    cases hr'
  rw [← hcl] at hinst hlate hord
  refine ⟨fun x hx => ?_, fun j a => ?_, fun u a => ?_⟩
  · rcases (Table.mem_insert? hA).1 hx with hx | rfl
    · exact hs.own x hx
    · exact hinst
  · unfold scope
    dsimp only
    rw [filter_insert hA]
    split
    · rename_i hk
      obtain ⟨rfl, rfl⟩ := of_decide_eq_true hk
      refine List.pairwise_append.2 ⟨hs.times _ _, List.pairwise_singleton _ _, ?_⟩
      intro x hx y hy
      rw [List.mem_singleton.1 hy, hat]
      obtain ⟨l, hl, hle⟩ := le_latestAdmittedAt hx
      rw [hinst] at hl
      exact Nat.le_trans hle (hlate l hl).1
    · exact hs.times j a
  · unfold taskScope
    dsimp only
    rw [filter_insert hA]
    split
    · rename_i hk
      obtain ⟨rfl, rfl⟩ := of_decide_eq_true hk
      have hold := hs.ordinals r.value.taskId r.value.action
      have hcount := s.taskActionCount_eq r.value.taskId r.value.action
      unfold taskScope at hold hcount
      rw [List.map_append, hold, List.length_append, List.map_singleton, hord, hcount,
        List.length_singleton, List.range'_1_concat, Nat.add_comm 1]
    · exact hs.ordinals u a

/-- Every operation of the ledger keeps its admissions sound. -/
theorem exec_admissionsSound {I : Site} (o : Op) {s : Ledger} (hs : AdmissionsSound I s) :
    AdmissionsSound I (exec I o s).2 := by
  have h := exec_frame I o s
  generalize (exec I o s).2 = s' at h
  cases h with
  | admissions h hr => exact admissionsSound_insert hs h hr
  | _ => exact ⟨hs.own, hs.times, hs.ordinals⟩

end Ledger

/-! ## Any number of gates on one ledger -/

structure Gates where
  ledger : Ledger
  gates : List ExecutorActionGate

inductive GateLabel where
  | construct (policy : LocalActionHardPolicyBinding)
  | bind (policy : LocalActionHardPolicyBinding)
  /-- An admission through gate `i`; `granted` is the row it newly granted. -/
  | admission (i : Nat) (expected : ActionAuthorizationExpectation)
      (authorizedAt admittedAt : Option Time) (granted : Option LocalActionAdmission)

/-- The row an admission newly granted. -/
def newlyGranted : Option (Except ActionGateError (Reply LocalActionAdmission)) →
    Option LocalActionAdmission
  | some (.ok r) => if r.replayed then none else some r.value
  | _ => none

inductive GateStep (I : Site) : Gates → GateLabel → Gates → Prop where
  | construct {s : Gates} {p : LocalActionHardPolicyBinding} {gate : ExecutorActionGate}
      {L : Ledger} (h : (ExecutorActionGate.new p).run (exec I) s.ledger = (some gate, L)) :
      GateStep I s (.construct p) ⟨L, s.gates ++ [gate]⟩
  | bind {s : Gates} {p : LocalActionHardPolicyBinding} :
      GateStep I s (.bind p) ⟨(exec I (.bindActionHardPolicy p) s.ledger).2, s.gates⟩
  | admission {s : Gates} {i : Nat} {gate : ExecutorActionGate}
      {expected : ActionAuthorizationExpectation} {t u : Option Time} {L : Ledger}
      {r : Option (Except ActionGateError (Reply LocalActionAdmission))}
      (hi : s.gates[i]? = some gate)
      (h : (gate.admitExpected expected t u).run (exec I) s.ledger = (r, L)) :
      GateStep I s (.admission i expected t u (newlyGranted r)) ⟨L, s.gates⟩

def gates (I : Site) : LTS Gates GateLabel where
  init s := s = ⟨.empty, []⟩
  step := GateStep I

/-- The gate that constructing with `p` adds, and the ledger it leaves. -/
theorem construct_step (I : Site) (s : Gates) (p : LocalActionHardPolicyBinding) :
    (gates I).step s (.construct p) ⟨(exec I (.bindActionHardPolicy p) s.ledger).2,
      s.gates ++ [⟨(exec I (.bindActionHardPolicy p) s.ledger).1⟩]⟩ := .construct rfl

theorem admission_step (I : Site) {s : Gates} {i : Nat} {gate : ExecutorActionGate}
    (hi : s.gates[i]? = some gate) (e : ActionAuthorizationExpectation) (t u : Option Time) :
    (gates I).step s
      (.admission i e t u (newlyGranted ((gate.admitExpected e t u).run (exec I) s.ledger).1))
      ⟨((gate.admitExpected e t u).run (exec I) s.ledger).2, s.gates⟩ := .admission hi rfl

/-- The persisted policy only changes to a tighter one. -/
def PolicyTightens (s s' : Gates) : Prop :=
  ∀ p, s.ledger.policy = some p → ∃ p', s'.ledger.policy = some p' ∧ p'.TighterThan p

namespace Ledger

theorem LocalActionHardPolicyBinding.TighterThan.refl (p : LocalActionHardPolicyBinding) :
    p.TighterThan p := ⟨Nat.le_refl _, Nat.le_refl _⟩

theorem LocalActionHardPolicyBinding.TighterThan.trans {p q r : LocalActionHardPolicyBinding}
    (h₁ : r.TighterThan q) (h₂ : q.TighterThan p) : r.TighterThan p :=
  ⟨Nat.le_trans h₂.1 h₁.1, Nat.le_trans h₁.2 h₂.2⟩

end Ledger

theorem admitExpected_run {I : Site} {gate : ExecutorActionGate}
    {expected : ActionAuthorizationExpectation} {t u : Option Time} {s L : Ledger}
    {r : Option (Except ActionGateError (Reply LocalActionAdmission))}
    (h : (gate.admitExpected expected t u).run (exec I) s = (r, L)) :
    (newlyGranted r = none ∧ L = s) ∨ ∃ now later a, t = some now ∧ u = some later ∧
      newlyGranted r = some a.value ∧ a.replayed = false ∧
      s.admitAction I (expected.claims now) (.authorization expected.actionId) later
        gate.policy.minimumIntervalSeconds gate.policy.taskActionLimit = .ok (a, L) := by
  unfold ExecutorActionGate.admitExpected at h
  split at h
  · rename_i now later
    simp only [Prog.op_bind, Prog.run_call, Prog.run_pure', Prod.mk.injEq] at h
    obtain ⟨rfl, rfl⟩ := h
    dsimp only [exec]
    cases ha : s.admitAction I (expected.claims now) (.authorization expected.actionId) later
        gate.policy.minimumIntervalSeconds gate.policy.taskActionLimit with
    | error e => cases e <;> exact .inl ⟨rfl, rfl⟩
    | ok p =>
      obtain ⟨a, L⟩ := p
      cases hr : a.replayed with
      | true =>
        obtain ⟨-, ⟨-, rfl, -⟩ | ⟨hr', -⟩⟩ := admitAction_ok ha
        · exact .inl ⟨by simp [newlyGranted, ExecutorActionGate.answer, atomicExcept, hr], rfl⟩
        · rw [hr] at hr'
          cases hr'
      | false =>
        refine .inr ⟨now, later, a, rfl, rfl, ?_, hr, ha⟩
        simp [newlyGranted, ExecutorActionGate.answer, atomicExcept, hr]
  · simp only [Prog.run_pure', Prod.mk.injEq] at h
    obtain ⟨rfl, rfl⟩ := h
    exact .inl ⟨rfl, rfl⟩

namespace GateStep

variable {I : Site} {s s' : Gates} {l : GateLabel}

/-- A step binds a policy, and perhaps hands it to a new gate, or asks for an
admission and changes the ledger only by granting it. -/
theorem inv (h : GateStep I s l s') :
    ((∀ i e t u g, l ≠ .admission i e t u g) ∧
      ∃ p, s'.ledger = (s.ledger.bindActionHardPolicy p).2 ∧
      (s'.gates = s.gates ∨ s'.gates = s.gates ++ [⟨(s.ledger.bindActionHardPolicy p).1⟩])) ∨
    (s'.gates = s.gates ∧ ∃ i e t u g gate, l = .admission i e t u g ∧
      s.gates[i]? = some gate ∧ ((g = none ∧ s'.ledger = s.ledger) ∨
        ∃ now later a, t = some now ∧ u = some later ∧ g = some a.value ∧ a.replayed = false ∧
          s.ledger.admitAction I (e.claims now) (.authorization e.actionId) later
            gate.policy.minimumIntervalSeconds gate.policy.taskActionLimit =
              .ok (a, s'.ledger))) := by
  cases h with
  | @construct p gate L h =>
    simp only [ExecutorActionGate.new, Prog.op_bind, Prog.run_call, Prog.run_pure',
      Prod.mk.injEq, Option.some.injEq] at h
    obtain ⟨rfl, rfl⟩ := h
    exact .inl ⟨nofun, p, rfl, .inr rfl⟩
  | bind => exact .inl ⟨nofun, _, rfl, .inl rfl⟩
  | @admission i gate e t u L r hi h =>
    exact .inr ⟨rfl, i, e, t, u, _, gate, rfl, hi, admitExpected_run h⟩

theorem admissionsSound (h : GateStep I s l s') (hs : AdmissionsSound I s.ledger) :
    AdmissionsSound I s'.ledger := by
  obtain ⟨-, p, hL, -⟩ | ⟨-, i, e, t, u, g, gate, -, -, ⟨-, hL⟩ | ⟨_, _, a, -, -, -, hr, ha⟩⟩ :=
    h.inv
  · rw [hL]
    exact exec_admissionsSound (.bindActionHardPolicy p) hs
  · rw [hL]
    exact hs
  · exact admissionsSound_insert hs ha hr

theorem policyTightens (h : GateStep I s l s') : PolicyTightens s s' := by
  intro q hq
  obtain ⟨-, p, hL, -⟩ | ⟨-, i, e, t, u, g, gate, -, -, ⟨-, hL⟩ | ⟨_, _, a, -, -, -, hr, ha⟩⟩ :=
    h.inv
  · rw [hL, bindActionHardPolicy_policy]
    exact ⟨_, rfl, bindActionHardPolicy_tighter hq⟩
  · rw [hL]
    exact ⟨q, hq, .refl q⟩
  · obtain ⟨-, ⟨hr', -⟩ | ⟨-, -, -, -, -, -, -, -, A, -, hL⟩⟩ := admitAction_ok ha
    · rw [hr] at hr'
      cases hr'
    · rw [hL]
      exact ⟨q, hq, .refl q⟩

end GateStep

/-- **The history of admissions is sound in every run of the gates.** -/
theorem admissions_sound {I : Site} {s : Gates} (h : (gates I).Reachable s) :
    AdmissionsSound I s.ledger := by
  have hI : (gates I).Inductive fun s => AdmissionsSound I s.ledger := by
    refine ⟨fun s hs => ?_, fun s l s' hs h => GateStep.admissionsSound h hs⟩
    subst hs
    exact ⟨fun r hr => (Table.not_mem_empty r hr).elim, fun _ _ => .nil, fun _ _ => rfl⟩
  exact hI.reachable h

/-- **The persisted policy is only ever tightened.** -/
theorem policy_tightens {I : Site} {s s' : Gates} {ls : List GateLabel}
    (h : (gates I).Run s ls s') : PolicyTightens s s' := by
  have htrue : (gates I).Inductive fun _ => True := ⟨fun _ _ => trivial, fun _ _ _ _ _ => trivial⟩
  refine h.rel htrue ?_ ?_ ?_ trivial
  · exact fun s p hp => ⟨p, hp, .refl p⟩
  · intro a b c hab hbc p hp
    obtain ⟨q, hq, hqp⟩ := hab p hp
    obtain ⟨r, hr, hrq⟩ := hbc q hq
    exact ⟨r, hr, hrq.trans hqp⟩
  · exact fun s l s' _ h => GateStep.policyTightens h

end AutomationTool.Executor
