import AutomationTool.Executor.System

/-!
# A redelivered action is refused instead of reported

Behaviour: `ProductionDouyinActionOperation.run` (
action_operation.py:210-230) asks the gate for admission before it looks at
the ledger, and the gate (action_gate.py:108-139) writes fresh claims whose
`authorized_at` is the clock reading of that moment. An action that was admitted
before has its claims stored, and `admit_action` (ledger.py:452-597) takes
other claims for a conflict. So the redelivered command of an action whose effect
was dispatched fails with `admission_rejected`.

Evidence: the branch right after the gate reports an effect that is past `prepared`
through `DouyinSideEffectRecovery` and is meant for exactly this command; README
A7-13, a dispatched, verified or uncertain effect is projected as it is and never as
a failure.

Counterexample: a comment is dispatched at second 2 and the executor crashes; the
command is delivered again at second 9.

`reported_iff`: the redelivered action is reported exactly when the gate finds the
same claims again, which takes the very clock reading of the first admission.
-/
namespace AutomationTool.Bugs.StaleAuthorization

open Executor Protocol Dispatch Ledger

/-- The fact says what the ledger knows of the effect: completed when it is verified,
uncertain when it is not, and never failed. -/
def Reports (x : EffectRecord) (fact : DouyinActionResultFact) : Prop :=
  fact.messageType = if x.state = .verified then .stepCompleted else .taskOutcomeUncertain

/-- The gate, reading the clock twice, finds the stored admission again. -/
structure Readmitted (I : Site) (s : Ledger) (expected : ActionAuthorizationExpectation)
    (ad : LocalActionAdmission) (authorizedAt admittedAt : Time) : Prop where
  released : s.guard.engaged = false
  own : expected.installationId = I.installationId ∧ expected.executorId = I.executorId
  claims : ad.toActionAuthorizationClaims = expected.claims authorizedAt
  fingerprint : ad.authorizationFingerprint = .authorization expected.actionId
  skew : authorizedAt ≤ admittedAt + actionAuthorizationClockSkew
  deadline : admittedAt < authorizedAt + actionAuthorizationMaxLifetime

section Redelivery

variable {I : Site} {s : Ledger} {gate : ExecutorActionGate}
  {expected : ActionAuthorizationExpectation} {ad : LocalActionAdmission}

/-- What the gate asks the ledger at two clock readings. -/
def asks (gate : ExecutorActionGate) (expected : ActionAuthorizationExpectation) (t u : Time) :
    Op :=
  .admitAction (expected.claims t) (.authorization expected.actionId) u
    gate.policy.minimumIntervalSeconds gate.policy.taskActionLimit

theorem admitExpected_run (t u : Time) :
    (gate.admitExpected expected (some t) (some u)).run (exec I) s =
      (some (ExecutorActionGate.answer (exec I (asks gate expected t u) s).1),
        (exec I (asks gate expected t u) s).2) := rfl

theorem asks_readmitted (ha : s.admission expected.actionId = some ad) {t u : Time}
    (h : Readmitted I s expected ad t u) :
    exec I (asks gate expected t u) s = (.ok ⟨ad, true⟩, s) := by
  have hrows := filter_replay s (expected.claims t)
  rw [show s.admission (expected.claims t).actionId = some ad from ha] at hrows
  have hok : s.admitAction I (expected.claims t) (.authorization expected.actionId) u
      gate.policy.minimumIntervalSeconds gate.policy.taskActionLimit = .ok (⟨ad, true⟩, s) := by
    unfold admitAction
    rw [hrows, dif_pos ⟨h.own.1, h.own.2, h.skew, h.deadline, gate.policy.interval_pos,
      gate.policy.interval_le, gate.policy.limit_pos, gate.policy.limit_le⟩]
    simp [h.released, h.claims, h.fingerprint]
  dsimp only [asks, exec]
  rw [hok]
  rfl

/-- An admission of an admitted action that succeeds is a replay. -/
theorem readmitted_of_ok (ha : s.admission expected.actionId = some ad) {t u : Time}
    {r : Reply LocalActionAdmission} {s' : Ledger}
    (h : s.admitAction I (expected.claims t) (.authorization expected.actionId) u
      gate.policy.minimumIntervalSeconds gate.policy.taskActionLimit = .ok (r, s')) :
    Readmitted I s expected ad t u := by
  have hguard : expected.installationId = I.installationId ∧
      expected.executorId = I.executorId ∧ t ≤ u + actionAuthorizationClockSkew ∧
      u < t + actionAuthorizationMaxLifetime := by
    have h' := h
    unfold admitAction at h'
    split at h'
    · rename_i hg
      exact ⟨hg.1, hg.2.1, hg.2.2.1, hg.2.2.2.1⟩
    · cases h'
  obtain ⟨hg, ⟨-, -, hr, hcl, hfp⟩ | ⟨-, hnone, -⟩⟩ := admitAction_ok h
  · have hr' : s.admission expected.actionId = some r.value := hr
    rw [ha] at hr'
    cases hr'
    exact ⟨hg, ⟨hguard.1, hguard.2.1⟩, hcl, hfp, hguard.2.2.1, hguard.2.2.2⟩
  · have hnone' : s.admission expected.actionId = none := hnone
    rw [ha] at hnone'
    cases hnone'

/-- Otherwise the gate refuses and the ledger stays as it is. -/
theorem admitExpected_refused (ha : s.admission expected.actionId = some ad)
    {now later : Option Time}
    (hno : ∀ t u, now = some t → later = some u → ¬Readmitted I s expected ad t u) :
    ∃ e, (gate.admitExpected expected now later).run (exec I) s = (some (.error e), s) := by
  cases now with
  | none => exact ⟨_, rfl⟩
  | some t =>
    cases later with
    | none => exact ⟨_, rfl⟩
    | some u =>
      rw [admitExpected_run]
      dsimp only [asks, exec]
      cases hadm : s.admitAction I (expected.claims t) (.authorization expected.actionId) u
          gate.policy.minimumIntervalSeconds gate.policy.taskActionLimit with
      | error e => cases e <;> exact ⟨_, rfl⟩
      | ok p => exact absurd (readmitted_of_ok ha hadm) (hno t u rfl rfl)

/-- The branch after the gate reports what recovery reports. -/
theorem alreadyDispatched_run (w : ActionSurroundings) {q : DouyinActionCommandPayload}
    {x : EffectRecord} (hx : s.effect q.actionId = some x) (hst : x.state ≠ .prepared)
    (ha : s.admission q.actionId = some ad) (hact : ad.action ≠ .browse) (hq : q.action ≠ .browse) :
    (ProductionDouyinActionOperation.alreadyDispatched w q).run (exec I) s =
      (some (some (some (reportedFact ad x))), s.settledUncertain q.actionId w.recoveredAt) := by
  unfold ProductionDouyinActionOperation.alreadyDispatched
  rw [if_neg hq, Prog.run_attempt]
  have hrec := recoverFact_run (I := I) hx ha hact hst w.recoveredAt
  simp [exec, getSideEffect_eq hx ha hact, hst, Prog.run_bind, hrec]

end Redelivery

open ProductionDouyinActionOperation in
/-- **When a redelivered action is reported.** For every ledger, every clock reading,
latch state and local limit: the command of a comment or direct message whose effect is
past `prepared` is answered with what the ledger knows of the effect exactly when the
gate finds the stored admission again. -/
theorem reported_iff {I : Site} {s : Ledger} (gate : ExecutorActionGate) (w : ActionSurroundings)
    {c : Command} {q : DouyinActionCommandPayload} (h : c.body = .actionExecute q)
    {x : EffectRecord} {ad : LocalActionAdmission} (hx : s.effect q.actionId = some x)
    (hst : x.state ≠ .prepared) (ha : s.admission q.actionId = some ad)
    (hact : ad.action ≠ .browse) (hq : q.action ≠ .browse) :
    (∃ fact, ((run gate w c q h).run (exec I) s).1 = some fact ∧ Reports x fact) ↔
      ∃ t u, w.authorizedAt = some t ∧ w.admittedAt = some u ∧
        Readmitted I s (expectation c q h) ad t u := by
  constructor
  · rintro ⟨fact, hrun, hfact⟩
    -- refused by the gate, the action is reported as failed
    refine Classical.byContradiction fun hno => ?_
    obtain ⟨e, he⟩ : ∃ e, (gate.admitExpected (expectation c q h) w.authorizedAt
        w.admittedAt).run (exec I) s = (some (.error e), s) :=
      admitExpected_refused ha fun t u ht hu hr => hno ⟨t, u, ht, hu, hr⟩
    unfold ProductionDouyinActionOperation.run at hrun
    rw [Prog.run_bind, he] at hrun
    cases e <;> cases hrun <;> revert hfact <;> unfold Reports <;> split <;> nofun
  · rintro ⟨t, u, ht, hu, hr⟩
    refine ⟨reportedFact ad x, ?_, ?_⟩
    · unfold ProductionDouyinActionOperation.run
      rw [Prog.run_bind, ht, hu, admitExpected_run, asks_readmitted ha hr]
      dsimp only [ExecutorActionGate.answer]
      rw [Prog.run_bind, alreadyDispatched_run w hx hst ha hact hq]
      rfl
    · unfold Reports reportedFact
      split <;> rfl

/-! ## Delivered again -/

section DeliveredAgain

open Sample

/-- The comment is dispatched, and the executor crashes. -/
def dispatched : Ledger :=
  after (exec site) started
    (prepareOps (seconds 2) ++ [.beginSideEffectDispatch 7 fingerprint (seconds 2)])

theorem dispatched_reachable : (issuedCalls site).Reachable dispatched :=
  reachable_harmless (executor_issued started_reachable)
    ⟨fun _ => trivial, fun _ => trivial, fun _ => trivial, fun _ => trivial⟩

/-- The operation on the redelivered command, at time `t`. -/
def redelivered (t : Time) : Prog Op Op.Ret DouyinActionResultFact :=
  ProductionDouyinActionOperation.run ⟨policy⟩ (browser t) execute (comment 7)
    (Eq.refl (CommandBody.actionExecute (comment 7)))

theorem dispatched_rows : ∃ x ad, dispatched.effect 7 = some x ∧ x.state = .dispatched ∧
    dispatched.admission 7 = some ad ∧
      ad.toActionAuthorizationClaims = expected.claims (seconds 2) ∧
        ad.authorizationFingerprint = .authorization 7 := by
  have hx : (dispatched.effect 7).isSome = true := by decide
  have ha : (dispatched.admission 7).isSome = true := by decide
  obtain ⟨x, hx⟩ := Option.isSome_iff_exists.1 hx
  obtain ⟨ad, ha⟩ := Option.isSome_iff_exists.1 ha
  have hst : (dispatched.effect 7).map (·.state) = some .dispatched := by decide
  have had : (dispatched.admission 7).map (fun ad =>
      (ad.toActionAuthorizationClaims, ad.authorizationFingerprint)) =
        some (expected.claims (seconds 2), .authorization 7) := by decide
  rw [hx] at hst
  rw [ha] at had
  obtain ⟨hclaims, hfp⟩ := Prod.mk.inj (Option.some.inj had)
  exact ⟨x, ad, hx, Option.some.inj hst, ha, hclaims, hfp⟩

/-- At the clock reading of its admission the action is reported. -/
theorem reported_at_once : ∃ x fact, dispatched.effect 7 = some x ∧
    ((redelivered (seconds 2)).run (exec site) dispatched).1 = some fact ∧ Reports x fact := by
  obtain ⟨x, ad, hx, hst, ha, hclaims, hfp⟩ := dispatched_rows
  have hact : ad.action ≠ .browse := by
    rw [hclaims]
    nofun
  obtain ⟨fact, hrun, hfact⟩ := (reported_iff (I := site) ⟨policy⟩ (browser (seconds 2))
    (c := execute) (q := comment 7) rfl hx (by rw [hst]; nofun) ha hact nofun).2
      ⟨_, _, rfl, rfl, ⟨by decide, by decide, hclaims, hfp, by decide, by decide⟩⟩
  exact ⟨x, fact, hx, hrun, hfact⟩

/-- **Counterexample**: seven seconds later the same action is reported as failed. -/
theorem redelivered_fails : ¬∀ (I : Site) (s : Ledger) (gate : ExecutorActionGate)
    (w : ActionSurroundings) (c : Command) (q : DouyinActionCommandPayload)
    (h : c.body = .actionExecute q) (x : EffectRecord) (ad : LocalActionAdmission),
    (issuedCalls I).Reachable s → s.effect q.actionId = some x → x.state ≠ .prepared →
      s.admission q.actionId = some ad → ad.action ≠ .browse → q.action ≠ .browse →
        ∀ fact, ((ProductionDouyinActionOperation.run gate w c q h).run (exec I) s).1 = some fact →
          Reports x fact := by
  intro h
  obtain ⟨x, ad, hx, hst, ha, hclaims, -⟩ := dispatched_rows
  have hact : ad.action ≠ .browse := by
    rw [hclaims]
    nofun
  have hrun : ((redelivered (seconds 9)).run (exec site) dispatched).1 =
      some ⟨7, 3, .stepFailed, .admissionRejected⟩ := by decide
  have hreport := h site dispatched ⟨policy⟩ (browser (seconds 9)) execute (comment 7) rfl x ad
    dispatched_reachable hx (by rw [hst]; nofun) ha hact nofun _ hrun
  unfold Reports at hreport
  rw [hst] at hreport
  cases hreport

end DeliveredAgain

end AutomationTool.Bugs.StaleAuthorization
