import AutomationTool.Executor.System

/-!
# Crash recovery reports one attempt for all of them

Behaviour (crash_recovery.py:81-120): the
coordinator scans the effects of all unfinished attempts together. When one of them
was reported as uncertain by an earlier recovery it projects nothing, otherwise it
projects the first uncertain outcome and stops. The listing is cut at 100 effects
(ledger.py:626-644), and a settlement dated before the dispatch is refused.

Evidence: README H8-05, without a page "a dispatched effect only ever becomes
uncertain" and the checkpoint moves together with its `task.outcome_uncertain`; the
listing exists to find every attempt this has to happen to.

Counterexample: attempt 1 was recovered as uncertain before; attempt 2 is running and
has a dispatched comment. The run returns, and attempt 2 is still running with nothing
said about it.

`reconciled_iff`: a run that returns reconciles the ledger exactly when no attempt is
owed anything, or one attempt is owed everything, some of it is listed, nothing listed
was reported as uncertain before, and every dispatched effect is listed and can be
settled at the clock reading made for it.
-/
namespace AutomationTool.Bugs.SharedRecovery

open Executor Protocol Dispatch Ledger ExecutorCrashRecoveryCoordinator Prog

def Live (s : Ledger) (e : ExecutionAttemptId) : Prop :=
  ∃ p, s.checkpoint e = some p ∧ (p.state = .running ∨ p.state = .paused)

/-- An earlier recovery reported the action. -/
def Reported (s : Ledger) (a : ActionId) : Prop :=
  ∃ f ∈ s.sent, f.message.idempotencyKey = .recovery a

/-- What a recovery from `s` to `s'` owes every attempt that was live. -/
structure Reconciled (s s' : Ledger) : Prop where
  settled : ∀ a ad x, s'.admission a = some ad → Live s ad.executionAttemptId →
    s'.effect a = some x → x.state ≠ .dispatched
  doubted : ∀ a ad x, s'.admission a = some ad → Live s ad.executionAttemptId →
    s'.effect a = some x → x.state = .uncertain → ¬Reported s a →
      (∃ p, s'.checkpoint ad.executionAttemptId = some p ∧ p.state = .outcomeUncertain) ∧
        ∃ f ∈ s'.sent, f.message.executionAttemptId = ad.executionAttemptId ∧
          f.message.eventType = some .taskOutcomeUncertain

/-- An effect whose outcome a live attempt still has to hear of. -/
structure Owed (s : Ledger) (x : LocalSideEffect) : Prop where
  admission : s.admission x.admission.actionId = some x.admission
  effect : s.effect x.admission.actionId = some x.record
  live : Live s x.admission.executionAttemptId
  state : x.record.state = .dispatched ∨
    (x.record.state = .uncertain ∧ ¬Reported s x.admission.actionId)

/-- The run settles the dispatched effect. -/
structure Settles (s : Ledger) (u : ActionId → Option Time) (x : LocalSideEffect) : Prop where
  listed : x ∈ listed s
  unreported : ¬Reported s x.admission.actionId
  clock : ∃ t, u x.admission.actionId = some t ∧ ∀ d, x.record.dispatchedAt = some d → d ≤ t

/-- When a run that reads the clock as `u` reconciles `s`. -/
def Recoverable (s : Ledger) (u : ActionId → Option Time) : Prop :=
  (∀ x, ¬Owed s x) ∨
    (¬EarlierDoubt s ∧ (∀ x, Owed s x → x.record.state = .dispatched → Settles s u x) ∧
      ∃ y, Owed s y ∧ y ∈ listed s ∧ ¬Reported s y.admission.actionId ∧
        ∀ x, Owed s x → x.admission.executionAttemptId = y.admission.executionAttemptId)

theorem recoveryEvent_eq_none {s : Ledger} {a : ActionId} :
    recoveryEvent s a = none ↔ ¬Reported s a := by
  unfold recoveryEvent Reported
  rw [Option.map_eq_none_iff, List.find?_eq_none]
  simp only [decide_eq_true_eq, not_exists, not_and]

theorem isOpen_iff {s : Ledger} {x : LocalSideEffect} : isOpen s x = true ↔
    ¬Reported s x.admission.actionId ∧ x.record.state ≠ .prepared := by
  unfold isOpen
  rw [Bool.and_eq_true, Option.isNone_iff_eq_none, recoveryEvent_eq_none, decide_eq_true_eq]

section Run

variable {s s' : Ledger} {u : ActionId → Option Time}

/-- What is left of an effect after the run. -/
def Left (s s' : Ledger) (u : ActionId → Option Time) : Prop :=
  ∀ a, s'.effect a = (settleOpen u (isOpen s) (listed s) s).effect a

theorem effect_after (hstands : ∀ x ∈ listed s, Stands s x) (hleft : Left s s' u)
    {x : LocalSideEffect} (ha : s.admission x.admission.actionId = some x.admission)
    (hx : s.effect x.admission.actionId = some x.record) :
    (x ∈ listed s ∧ isOpen s x = true ∧ s'.effect x.admission.actionId =
      some (settledRecord x.record (u x.admission.actionId))) ∨
    (¬(x ∈ listed s ∧ isOpen s x = true) ∧ s'.effect x.admission.actionId = some x.record) := by
  have hany : (listed s).any (fun y => y.admission.actionId = x.admission.actionId && isOpen s y) =
      true ↔ x ∈ listed s ∧ isOpen s x = true := by
    rw [List.any_eq_true]
    constructor
    · rintro ⟨y, hy, h⟩
      rw [Bool.and_eq_true, decide_eq_true_eq] at h
      have hst := hstands y hy
      have h1 := hst.admission
      have h2 := hst.effect
      rw [h.1, ha] at h1
      rw [h.1, hx] at h2
      obtain ⟨ad, r⟩ := y
      cases h1
      cases h2
      exact ⟨hy, h.2⟩
    · rintro ⟨hx, hopen⟩
      exact ⟨x, hx, by simp [hopen]⟩
  rw [hleft, settleOpen_effect (listed_nodup s), hx]
  by_cases h : x ∈ listed s ∧ isOpen s x = true
  · rw [if_pos (hany.2 h)]
    exact .inl ⟨h.1, h.2, rfl⟩
  · rw [if_neg fun h' => h (hany.1 h')]
    exact .inr ⟨h, rfl⟩

/-- An effect that is not dispatched stays as it is. -/
theorem effect_after_settled (hstands : ∀ x ∈ listed s, Stands s x) (hleft : Left s s' u)
    {x : LocalSideEffect} (ha : s.admission x.admission.actionId = some x.admission)
    (hx : s.effect x.admission.actionId = some x.record) (hst : x.record.state ≠ .dispatched) :
    s'.effect x.admission.actionId = some x.record := by
  obtain ⟨-, -, h⟩ | ⟨-, h⟩ := effect_after hstands hleft ha hx
  · rw [h]
    cases u x.admission.actionId with
    | none => rfl
    | some t => rw [settledRecord, Record.settle_of_not_dispatched hst]
  · exact h

/-- A dispatched effect becomes uncertain when the run settles it, and stays
dispatched otherwise. -/
theorem effect_after_dispatched (hstands : ∀ x ∈ listed s, Stands s x) (hleft : Left s s' u)
    {x : LocalSideEffect} (ha : s.admission x.admission.actionId = some x.admission)
    (hx : s.effect x.admission.actionId = some x.record) (hst : x.record.state = .dispatched) :
    (Settles s u x ∧ ∃ r, s'.effect x.admission.actionId = some r ∧ r.state = .uncertain) ∨
    (¬Settles s u x ∧ ∃ r, s'.effect x.admission.actionId = some r ∧ r.state = .dispatched) := by
  obtain ⟨d, hd, -⟩ := x.record.dispatchedAt_of_dispatched hst
  obtain ⟨hlist, hopen, h⟩ | ⟨hno, h⟩ := effect_after hstands hleft ha hx
  · cases hu : u x.admission.actionId with
    | none =>
      rw [hu] at h
      refine .inr ⟨fun hs => ?_, _, h, hst⟩
      obtain ⟨t, ht, -⟩ := hs.clock
      rw [hu] at ht
      cases ht
    | some t =>
      rw [hu] at h
      by_cases hdt : d ≤ t
      · refine .inl ⟨⟨hlist, (isOpen_iff.1 hopen).1, t, hu, fun d' hd' => ?_⟩, _, h,
          (Record.settle_of_dispatched hst hd hdt).1⟩
        rw [hd] at hd'
        cases hd'
        exact hdt
      · refine .inr ⟨fun hs => ?_, _, h, ?_⟩
        · obtain ⟨t', ht', hle⟩ := hs.clock
          rw [hu] at ht'
          cases ht'
          exact hdt (hle d hd)
        · rw [settledRecord, Record.settle_of_early hd (Nat.lt_of_not_le hdt)]
          exact hst
  · refine .inr ⟨fun hs => hno ⟨hs.listed, isOpen_iff.2 ⟨hs.unreported, ?_⟩⟩, _, h, hst⟩
    rw [hst]
    rintro ⟨⟩

/-- An open effect that is not verified is owed. -/
theorem owed_of_open {x : LocalSideEffect} (hx : Stands s x)
    (hlive : Live s x.admission.executionAttemptId) (hopen : isOpen s x = true)
    (hunverified : x.record.state ≠ .verified) : Owed s x := by
  obtain ⟨hun, hprep⟩ := isOpen_iff.1 hopen
  refine ⟨hx.admission, hx.effect, hlive, ?_⟩
  cases hst : x.record.state with
  | prepared => exact absurd hst hprep
  | dispatched => exact .inl rfl
  | verified => exact absurd hst hunverified
  | uncertain => exact .inr ⟨rfl, hun⟩

theorem owed_of_dispatched {x : LocalSideEffect}
    (ha : s.admission x.admission.actionId = some x.admission)
    (hx : s.effect x.admission.actionId = some x.record)
    (hlive : Live s x.admission.executionAttemptId) (hst : x.record.state = .dispatched) :
    Owed s x := ⟨ha, hx, hlive, .inl hst⟩

/-- What a row of the ledger after the run was before it. -/
theorem row_before (hadm : s'.admissions = s.admissions) (hleft : Left s s' u) {a : ActionId}
    {ad : LocalActionAdmission} {r : EffectRecord} (ha : s'.admission a = some ad)
    (hr : s'.effect a = some r) : ∃ x : LocalSideEffect, x.admission = ad ∧ ad.actionId = a ∧
      s.admission x.admission.actionId = some x.admission ∧
        s.effect x.admission.actionId = some x.record := by
  have ha' : s.admission a = some ad := by
    unfold admission at ha ⊢
    rw [← hadm]
    exact ha
  have hid : ad.actionId = a := (admission_eq_some.1 ha').2
  subst hid
  cases hx : s.effect ad.actionId with
  | none =>
    rw [hleft, settleOpen_effect (listed_nodup s), hx] at hr
    split at hr <;> cases hr
  | some x => exact ⟨⟨ad, x⟩, rfl, rfl, ha', hx⟩

/-- No dispatched effect of a live attempt is left exactly when the run settles them all. -/
theorem settled_all_iff (hstands : ∀ x ∈ listed s, Stands s x) (hadm : s'.admissions = s.admissions)
    (hleft : Left s s' u) :
    (∀ a ad x, s'.admission a = some ad → Live s ad.executionAttemptId →
      s'.effect a = some x → x.state ≠ .dispatched) ↔
      ∀ x, Owed s x → x.record.state = .dispatched → Settles s u x := by
  constructor
  · intro h x hx hst
    obtain ⟨hs, -⟩ | ⟨-, r, hr, hrst⟩ :=
      effect_after_dispatched hstands hleft hx.admission hx.effect hst
    · exact hs
    · have ha : s'.admission x.admission.actionId = some x.admission := by
        unfold admission
        rw [hadm]
        exact hx.admission
      exact absurd hrst (h _ _ _ ha hx.live hr)
  · intro h a ad r ha hlive hr hrst
    obtain ⟨x, rfl, rfl, hxa, hx⟩ := row_before hadm hleft ha hr
    by_cases hst : x.record.state = .dispatched
    · have hs := h x (owed_of_dispatched hxa hx hlive hst) hst
      obtain ⟨-, r', hr', hrst'⟩ | ⟨hno, -⟩ := effect_after_dispatched hstands hleft hxa hx hst
      · rw [hr] at hr'
        cases hr'
        rw [hrst] at hrst'
        cases hrst'
      · exact hno hs
    · rw [effect_after_settled hstands hleft hxa hx hst] at hr
      cases hr
      exact hst hrst

/-- An effect that is uncertain after the run was owed to its attempt. -/
theorem owed_of_uncertain (hstands : ∀ x ∈ listed s, Stands s x)
    (hadm : s'.admissions = s.admissions) (hleft : Left s s' u) {a : ActionId}
    {ad : LocalActionAdmission} {r : EffectRecord} (ha : s'.admission a = some ad)
    (hlive : Live s ad.executionAttemptId) (hr : s'.effect a = some r)
    (hst : r.state = .uncertain) (hun : ¬Reported s a) :
    ∃ x, Owed s x ∧ x.admission = ad := by
  obtain ⟨x, rfl, rfl, hxa, hx⟩ := row_before hadm hleft ha hr
  refine ⟨x, ⟨hxa, hx, hlive, ?_⟩, rfl⟩
  by_cases hd : x.record.state = .dispatched
  · exact .inl hd
  · rw [effect_after_settled hstands hleft hxa hx hd] at hr
    cases hr
    exact .inr ⟨hst, hun⟩

/-- An owed effect is uncertain and unreported after a run that settles it. -/
theorem uncertain_of_owed (hstands : ∀ x ∈ listed s, Stands s x) (hleft : Left s s' u)
    {x : LocalSideEffect} (hx : Owed s x)
    (hsettles : x.record.state = .dispatched → Settles s u x) :
    ¬Reported s x.admission.actionId ∧
      ∃ r, s'.effect x.admission.actionId = some r ∧ r.state = .uncertain := by
  rcases hx.state with hst | ⟨hst, hun⟩
  · have hs := hsettles hst
    obtain ⟨-, h⟩ | ⟨hno, -⟩ := effect_after_dispatched hstands hleft hx.admission hx.effect hst
    · exact ⟨hs.unreported, h⟩
    · exact absurd hs hno
  · refine ⟨hun, _, effect_after_settled hstands hleft hx.admission hx.effect ?_, hst⟩
    rw [hst]
    nofun

/-- What reconciling says of an owed effect: its attempt became uncertain. -/
theorem Reconciled.attempt (h : Reconciled s s') (hstands : ∀ x ∈ listed s, Stands s x)
    (hadm : s'.admissions = s.admissions) (hleft : Left s s' u) {x : LocalSideEffect}
    (hx : Owed s x) :
    (s'.checkpoint x.admission.executionAttemptId).map (·.state) = some .outcomeUncertain := by
  obtain ⟨hun, r, hr, hst⟩ := uncertain_of_owed hstands hleft hx
    ((settled_all_iff hstands hadm hleft).1 h.settled x hx)
  have ha : s'.admission x.admission.actionId = some x.admission := by
    unfold admission
    rw [hadm]
    exact hx.admission
  obtain ⟨⟨p, hp, hst⟩, -⟩ := h.doubted _ _ _ ha hx.live hr hst hun
  rw [hp, Option.map_some, hst]

theorem Live.state_ne {e : ExecutionAttemptId} (h : Live s e) :
    (s.checkpoint e).map (·.state) ≠ some .outcomeUncertain := by
  obtain ⟨p, hp, hst⟩ := h
  rw [hp, Option.map_some]
  rcases hst with h | h <;> rw [h] <;> nofun

end Run

/-- **When crash recovery reconciles the ledger.** For every ledger, every clock and
every run of the coordinator without a page that returns: no effect of a live attempt
is left dispatched, and every attempt with an uncertain effect nobody reported is
uncertain and has said so, exactly when the ledger is recoverable. -/
theorem reconciled_iff {I : Site} {s s' : Ledger} {u : ActionId → Option Time}
    {stamp : ActionId → Option Stamp} {r : List Outbound}
    (h : (ExecutorCrashRecoveryCoordinator.run I ⟨fun a => .withoutPage (u a), stamp⟩).run
      (exec I) s = (some r, s')) : Reconciled s s' ↔ Recoverable s u := by
  obtain ⟨hstands, hadm, hleft, hends⟩ := run_some h
  have hsettled := settled_all_iff (u := u) hstands hadm hleft
  constructor
  · intro hrec
    cases hends with
    | quiet hwhy hstate =>
      left
      intro x hx
      have := hrec.attempt hstands hadm hleft hx
      rw [hstate] at this
      exact hx.live.state_ne this
    | doubted y hy hopen hunverified hno hlive hstate hsent =>
      right
      have howed := owed_of_open (hstands y hy) hlive hopen hunverified
      have hun := (isOpen_iff.1 hopen).1
      refine ⟨hno, hsettled.1 hrec.settled, y, howed, hy, hun, fun x hx => ?_⟩
      refine Classical.byContradiction fun hne => ?_
      have := hrec.attempt hstands hadm hleft hx
      rw [hstate, if_neg hne] at this
      exact hx.live.state_ne this
  · intro hrec
    rcases hrec with hnone | ⟨hno, hsettles, y, hy, hlist, hun, hall⟩
    · refine ⟨hsettled.2 fun x hx => absurd hx (hnone x), fun a ad x ha hlive hx hst hun => ?_⟩
      obtain ⟨z, hz, -⟩ := owed_of_uncertain hstands hadm hleft ha hlive hx hst hun
      exact absurd hz (hnone z)
    · refine ⟨hsettled.2 hsettles, fun a ad x ha hlive hx hst hunx => ?_⟩
      obtain ⟨z, hz, rfl⟩ := owed_of_uncertain hstands hadm hleft ha hlive hx hst hunx
      have hyopen : isOpen s y = true := by
        refine isOpen_iff.2 ⟨hun, fun hp => ?_⟩
        rcases hy.state with h | ⟨h, -⟩ <;> rw [hp] at h <;> cases h
      cases hends with
      | quiet hwhy hstate =>
        -- an owed effect is open and not verified
        rcases hwhy with hd | hv
        · exact absurd hd hno
        · have hver := hv y hlist hyopen
          rcases hy.state with h | ⟨h, -⟩ <;> rw [hver] at h <;> cases h
      | doubted y' hy' hopen' hunverified' hno' hlive' hstate hsent =>
        have howed := owed_of_open (hstands y' hy') hlive' hopen' hunverified'
        have he : z.admission.executionAttemptId = y'.admission.executionAttemptId :=
          (hall z hz).trans (hall y' howed).symm
        refine ⟨?_, ?_⟩
        · have hst' := hstate z.admission.executionAttemptId
          rw [if_pos he] at hst'
          obtain ⟨p, hp, hst'⟩ := Option.map_eq_some_iff.1 hst'
          exact ⟨p, hp, hst'⟩
        · rw [he]
          exact hsent

/-! ## Two attempts -/

section TwoAttempts

open Sample

/-- A recovery at time `t`, whose event has message id `m`. -/
def recovery (t : Time) (m : MessageId) : Prog Op Op.Ret (List Outbound) :=
  ExecutorCrashRecoveryCoordinator.run site ⟨fun _ => .withoutPage (some t), fun _ => some ⟨t, m⟩⟩

def dispatchOps (t : Time) : List Op := prepareOps t ++ [.beginSideEffectDispatch 7 fingerprint t]

/-- The first attempt runs, its comment was dispatched. -/
def dispatched : Ledger := serve site [ignore (ExecutorActionGate.new policy),
  handle (seconds 1) 100 offer, each (dispatchOps (seconds 2))]

/-- The second attempt and its comment. -/
def offer' : Command := command 21 2 1 (.other "offer 2") (.taskOffer 0)
  (by decide : 1 ≥ 1 ∧ 1 ≤ maxExecutorSequence) fun b h => by cases h; decide

theorem own_key (p : DouyinActionCommandPayload)
    (h : CommandBody.actionExecute (comment 8) = .actionExecute p) :
    IdempotencyKey.action (comment 8).actionId = .action p.actionId := by
  cases h
  rfl

def execute' : Command :=
  command 22 2 2 (.action (comment 8).actionId) (.actionExecute (comment 8))
    (by decide : 2 ≥ 1 ∧ 2 ≤ maxExecutorSequence) (fun b h => by cases h) own_key

def expected' : ActionAuthorizationExpectation := expectation execute' (comment 8) rfl

def fingerprint' : Digest := SideEffectActionExecution.effectFingerprint expected' "hello"

def dispatchOps' (t : Time) : List Op :=
  [.receiveCommand execute', .admitAction (expected'.claims t) (.authorization 8) t 1 100,
    .prepareSideEffect 8 fingerprint' t, .beginSideEffectDispatch 8 fingerprint' t]

/-- The first attempt was recovered, the second runs and its comment was dispatched. -/
def second : Ledger := serve site [ignore (ExecutorActionGate.new policy),
  handle (seconds 1) 100 offer, each (dispatchOps (seconds 2)), ignore (recovery (seconds 3) 400),
  handle (seconds 4) 500 offer', each (dispatchOps' (seconds 5))]

theorem second_reachable : (executor site).Reachable ⟨second, []⟩ :=
  serve_reachable ⟨offered_gate _ _, .handle _ _,
    offered_each ⟨fun _ => trivial, fun _ => trivial, fun _ => trivial, fun _ => trivial⟩,
    .crashRecovery _, .handle _ _,
    offered_each ⟨fun _ => trivial, fun _ => trivial, fun _ => trivial, fun _ => trivial⟩⟩

theorem live_of_running {s : Ledger} {e : ExecutionAttemptId}
    (h : (s.checkpoint e).map (·.state) = some .running) : Live s e := by
  obtain ⟨p, hp, hst⟩ := Option.map_eq_some_iff.1 h
  exact ⟨p, hp, .inl hst⟩

/-- With one attempt, whose comment is listed and was not reported, the run reconciles. -/
theorem dispatched_reconciled : ∃ r s',
    (recovery (seconds 3) 400).run (exec site) dispatched = (some r, s') ∧
      Reconciled dispatched s' := by
  have hsome : ((recovery (seconds 3) 400).run (exec site) dispatched).1.isSome = true := by decide
  obtain ⟨r, hr⟩ := Option.isSome_iff_exists.1 hsome
  have hrun : (recovery (seconds 3) 400).run (exec site) dispatched =
      (some r, ((recovery (seconds 3) 400).run (exec site) dispatched).2) := Prod.ext hr rfl
  refine ⟨r, _, hrun, (reconciled_iff hrun).2 (.inr ?_)⟩
  obtain ⟨hstands, -⟩ := run_some hrun
  have hunreported : ¬Reported dispatched 7 := by
    have hno : ∀ f ∈ dispatched.sent, f.message.idempotencyKey ≠ .recovery 7 := by decide
    rintro ⟨f, hf, hk⟩
    exact hno f hf hk
  have hids : (listed dispatched).map (·.admission.actionId) = [7] := by decide
  have hlisted : ∀ y ∈ listed dispatched, y.admission.actionId = 7 ∧
      y.admission.executionAttemptId = 1 ∧ y.record.state = .dispatched ∧
        y.record.dispatchedAt = some (seconds 2) := by decide
  obtain ⟨y, hy⟩ : ∃ y, y ∈ listed dispatched := by
    cases hl : listed dispatched with
    | nil => rw [hl] at hids; cases hids
    | cons y ys => exact ⟨y, List.mem_cons_self⟩
  obtain ⟨hya, hye, hyst, hyd⟩ := hlisted y hy
  have hyowed : Owed dispatched y := by
    refine ⟨(hstands y hy).admission, (hstands y hy).effect, ?_, .inl hyst⟩
    rw [hye]
    exact live_of_running (by decide)
  have honly : ∀ x, Owed dispatched x → x = y := by
    intro x hx
    have hkeys : ∀ e ∈ dispatched.sideEffects.rows, e.key = 7 := by decide
    have hxa : x.admission.actionId = 7 := hkeys _ (Book.lookup_eq_some.1 hx.effect)
    have h1 := hx.admission
    have h2 := hx.effect
    rw [hxa, ← hya, (hstands y hy).admission] at h1
    rw [hxa, ← hya, (hstands y hy).effect] at h2
    obtain ⟨ad, rec⟩ := x
    cases h1
    cases h2
    rfl
  refine ⟨?_, fun x hx _ => ?_, y, hyowed, hy, ?_, fun x hx => by rw [honly x hx]⟩
  · rintro ⟨x, hx, m, hm, -⟩
    rw [(hlisted x hx).1, recoveryEvent_eq_none.2 hunreported] at hm
    cases hm
  · rw [honly x hx]
    refine ⟨hy, ?_, seconds 3, rfl, fun d hd => ?_⟩
    · rw [hya]
      exact hunreported
    · rw [hyd] at hd
      cases hd
      decide
  · rw [hya]
    exact hunreported

/-- **Counterexample**: the run returns, and the second attempt is not told that its
comment is uncertain. -/
theorem second_forgotten : ¬∀ (I : Site) (s s' : Ledger) (u : ActionId → Option Time)
    (stamp : ActionId → Option Stamp) (r : List Outbound), (executor I).Reachable ⟨s, []⟩ →
      (ExecutorCrashRecoveryCoordinator.run I ⟨fun a => .withoutPage (u a), stamp⟩).run
        (exec I) s = (some r, s') → Reconciled s s' := by
  intro h
  have hsome : ((recovery (seconds 6) 600).run (exec site) second).1.isSome = true := by decide
  obtain ⟨r, hr⟩ := Option.isSome_iff_exists.1 hsome
  have hrec := h site second _ (fun _ => some (seconds 6)) (fun _ => some ⟨seconds 6, 600⟩) r
    second_reachable (Prod.ext hr rfl)
  have hlive : Live second 2 := live_of_running (by decide)
  have hunreported : ¬Reported second 8 := by
    have hno : ∀ f ∈ second.sent, f.message.idempotencyKey ≠ .recovery 8 := by decide
    rintro ⟨f, hf, hk⟩
    exact hno f hf hk
  have heffect : (((recovery (seconds 6) 600).run (exec site) second).2.effect 8).map (·.state) =
      some .uncertain := by decide
  have hadmission : (((recovery (seconds 6) 600).run (exec site) second).2.admission 8).map
      (·.executionAttemptId) = some 2 := by decide
  have hstill : (((recovery (seconds 6) 600).run (exec site) second).2.checkpoint 2).map (·.state) =
      some .running := by decide
  obtain ⟨x, hx, hst⟩ := Option.map_eq_some_iff.1 heffect
  obtain ⟨ad, had, he⟩ := Option.map_eq_some_iff.1 hadmission
  obtain ⟨⟨p, hp, hpst⟩, -⟩ := hrec.doubted 8 ad x had (he ▸ hlive) hx hst hunreported
  rw [he] at hp
  have hp' : ((recovery (seconds 6) 600).run (exec site) second).2.checkpoint 2 = some p := hp
  rw [hp', Option.map_some, hpst] at hstill
  cases hstill

end TwoAttempts

end AutomationTool.Bugs.SharedRecovery
