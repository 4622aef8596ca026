import AutomationTool.Executor.Ledger.Service

/-!
# Reading the outcome of a dispatched effect

`DouyinSideEffectRecovery` turns a stored effect into a receipt without ever
dispatching again: a settled effect is reported as it is, a dispatched one is
settled first, as verified when a page confirms it and as uncertain otherwise.
After a crash there is no page, so a dispatched effect becomes uncertain.

`recoverFact_run`: what a recovery without a page returns and leaves behind, for
every effect of an admitted side-effect action and every clock reading.
-/
namespace AutomationTool.Executor

open Protocol Dispatch Ledger

/-! ## Result facts -/

inductive ActionResultType where
  | stepCompleted | stepFailed | taskOutcomeUncertain
  deriving DecidableEq, Repr

def ActionResultType.eventType : ActionResultType → TaskEventType
  | .stepCompleted => .stepCompleted
  | .stepFailed => .stepFailed
  | .taskOutcomeUncertain => .taskOutcomeUncertain

/-- mirrors douyin/action_result.py:43-64 -/
structure DouyinActionResultFact where
  actionId : ActionId
  targetId : TargetId
  messageType : ActionResultType
  evidence : ActionResultEvidence
  deriving DecidableEq

def DouyinActionResultFact.payload (fact : DouyinActionResultFact) : EventPayload where
  actionId := some fact.actionId
  evidence := some fact.evidence
  evidenceVersion := some .actionResultEvidenceV1

/-! ## Receipts -/

/-- mirrors side_effect_recovery.py:71-85 -/
inductive DouyinSideEffectRecoveryState where
  | notDispatched | verified | outcomeUncertain
  deriving DecidableEq, Repr

inductive DouyinSideEffectRecoveryEvidence where
  | preparedNotDispatched | alreadyVerified | alreadyUncertain | commentConfirmed
  | messageConfirmed | finalTimedOut | pageUnavailable | verificationUnavailable
  deriving DecidableEq, Repr

def DouyinSideEffectRecoveryEvidence.unconfirmed : DouyinSideEffectRecoveryEvidence → Bool
  | .finalTimedOut | .pageUnavailable | .verificationUnavailable => true
  | _ => false

/-- `DouyinSideEffectRecoveryReceipt.__post_init__`.
mirrors side_effect_recovery.py:108-177 -/
def ReceiptCheck (state : DouyinSideEffectRecoveryState)
    (evidence : DouyinSideEffectRecoveryEvidence) (effect : SideEffectState) (revision : Nat)
    (replayed : Bool) : Prop :=
  (state = .notDispatched ∧ evidence = .preparedNotDispatched ∧ effect = .prepared ∧
    revision = 1 ∧ replayed = false) ∨
  (state = .verified ∧ (evidence = .commentConfirmed ∨ evidence = .messageConfirmed) ∧
    effect = .verified ∧ revision = 3 ∧ replayed = false) ∨
  (state = .verified ∧ evidence = .alreadyVerified ∧ effect = .verified ∧ revision = 3 ∧
    replayed = true) ∨
  (state = .outcomeUncertain ∧ evidence.unconfirmed = true ∧
    ((effect = .dispatched ∧ revision = 2) ∨ (effect = .uncertain ∧ revision = 3)) ∧
    replayed = false) ∨
  (state = .outcomeUncertain ∧ evidence = .alreadyUncertain ∧ effect = .uncertain ∧
    revision = 3 ∧ replayed = true)

instance (state : DouyinSideEffectRecoveryState) (evidence : DouyinSideEffectRecoveryEvidence)
    (effect : SideEffectState) (revision : Nat) (replayed : Bool) :
    Decidable (ReceiptCheck state evidence effect revision replayed) :=
  inferInstanceAs (Decidable (_ ∨ _ ∨ _ ∨ _ ∨ _))

structure DouyinSideEffectRecoveryReceipt where
  actionId : ActionId
  targetId : TargetId
  action : DouyinSearchExposureAction
  state : DouyinSideEffectRecoveryState
  evidence : DouyinSideEffectRecoveryEvidence
  sideEffectState : SideEffectState
  sideEffectRevision : Nat
  replayed : Bool
  action_closed : action ≠ .browse
  check : ReceiptCheck state evidence sideEffectState sideEffectRevision replayed
  deriving DecidableEq

/-- `_receipt`; a combination the receipt does not allow is refused.
mirrors side_effect_recovery.py:456-473 -/
def receipt (effect : LocalSideEffect) (state : DouyinSideEffectRecoveryState)
    (evidence : DouyinSideEffectRecoveryEvidence) (replayed : Bool) :
    Option DouyinSideEffectRecoveryReceipt :=
  if h : effect.admission.action ≠ .browse ∧
      ReceiptCheck state evidence effect.record.state effect.record.revision replayed then
    some ⟨effect.admission.actionId, effect.admission.targetId, effect.admission.action, state,
      evidence, effect.record.state, effect.record.revision, replayed, h.1, h.2⟩
  else none

/-- `_existing_receipt`: `none` for an effect whose outcome is not recorded yet.
mirrors side_effect_recovery.py:434-453 -/
def existingReceipt (effect : LocalSideEffect) : Option (Option DouyinSideEffectRecoveryReceipt) :=
  match effect.record.state with
  | .verified => some (receipt effect .verified .alreadyVerified true)
  | .uncertain => some (receipt effect .outcomeUncertain .alreadyUncertain true)
  | _ => none

/-- mirrors douyin/action_result.py:216-235 -/
def recoveredActionResult (r : DouyinSideEffectRecoveryReceipt) : Option DouyinActionResultFact :=
  match r.state with
  | .notDispatched => none
  | .verified => some ⟨r.actionId, r.targetId, .stepCompleted,
      if r.action = .comment then .commentConfirmed else .messageConfirmed⟩
  | .outcomeUncertain => some ⟨r.actionId, r.targetId, .taskOutcomeUncertain, .recoveryUnconfirmed⟩

/-! ## The recovery -/

/-- What a recovery has at hand. -/
structure RecoveryContext where
  /-- `none` without a page context; else whether the page shows the confirmation,
  `none` when reading the page raises. -/
  window : Option (Option Bool)
  verifiedAt : Option Time
  uncertainAt : Option Time

/-- `without_page_context`, with the one clock reading it may make. -/
def RecoveryContext.withoutPage (uncertainAt : Option Time) : RecoveryContext :=
  ⟨none, none, uncertainAt⟩

namespace DouyinSideEffectRecovery

/-- mirrors side_effect_recovery.py:412-417 -/
def current (fallback : LocalSideEffect) : Prog Op Op.Ret LocalSideEffect := do
  let found ← Op.call (.getSideEffect fallback.admission.actionId)
  pure (match found with
    | some (some effect) => effect
    | _ => fallback)

/-- mirrors side_effect_recovery.py:386-410 -/
def settleUncertain (context : RecoveryContext) (effect : LocalSideEffect)
    (evidence : DouyinSideEffectRecoveryEvidence) :
    Prog Op Op.Ret DouyinSideEffectRecoveryReceipt := do
  let settled : Option (Reply LocalSideEffect) ← Prog.given context.uncertainAt fun now =>
    Op.call (.markSideEffectUncertain effect.admission.actionId effect.record.intent now)
  match settled with
  | some s =>
    if s.replayed then Prog.ofOption (existingReceipt s.value).join
    else Prog.ofOption (receipt s.value .outcomeUncertain evidence false)
  | none => do
    let now ← current effect
    match existingReceipt now with
    | some r => Prog.ofOption r
    | none => Prog.ofOption (receipt now .outcomeUncertain evidence false)

/-- mirrors side_effect_recovery.py:350-384 -/
def verify (context : RecoveryContext) (effect : LocalSideEffect) (fingerprint : Digest)
    (evidence : DouyinSideEffectRecoveryEvidence) :
    Prog Op Op.Ret DouyinSideEffectRecoveryReceipt := do
  let verified : Option (Reply LocalSideEffect) ← Prog.given context.verifiedAt fun now =>
    Op.call (.verifySideEffect effect.admission.actionId effect.record.intent fingerprint now)
  match verified with
  | some v =>
    if v.replayed then Prog.ofOption (receipt v.value .verified .alreadyVerified true)
    else Prog.ofOption (receipt v.value .verified evidence false)
  | none => do
    let now ← current effect
    match existingReceipt now with
    | some r => Prog.ofOption r
    | none => settleUncertain context now .verificationUnavailable

/-- mirrors side_effect_recovery.py:266-348 -/
def run (context : RecoveryContext) (a : ActionId) :
    Prog Op Op.Ret DouyinSideEffectRecoveryReceipt := do
  let found : Option (Option LocalSideEffect) ← Op.call (.getSideEffect a)
  let effect ← Prog.ofOption found.join
  if effect.record.state = .prepared then
    Prog.ofOption (receipt effect .notDispatched .preparedNotDispatched false)
  else
    match existingReceipt effect with
    | some r => Prog.ofOption r
    | none =>
      match context.window with
      | none | some none => settleUncertain context effect .pageUnavailable
      | some (some false) => settleUncertain context effect .finalTimedOut
      | some (some true) =>
        verify context effect (.verification effect.admission.action effect.record.intent)
          (if effect.admission.action = .comment then .commentConfirmed else .messageConfirmed)

end DouyinSideEffectRecovery

/-- `recovered_action_result(recovery.run(action_id=…))`. -/
def recoverFact (context : RecoveryContext) (a : ActionId) :
    Prog Op Op.Ret DouyinActionResultFact := do
  let r ← DouyinSideEffectRecovery.run context a
  Prog.ofOption (recoveredActionResult r)

/-! ## What a recovery without a page does -/

/-- The ledger after a dispatched effect of `a` was settled as uncertain at `t`; a
settlement dated before the dispatch is refused. -/
def Ledger.settledUncertain (s : Ledger) (a : ActionId) : Option Time → Ledger
  | none => s
  | some t => { s with sideEffects := Book.sweep s.sideEffects (· = a) (Record.settle none t) }

/-- What that settlement makes of the record. -/
def settledRecord (x : EffectRecord) : Option Time → EffectRecord
  | none => x
  | some t => x.settle none t

/-- The fact a settled or dispatched effect is reported as. -/
def reportedFact (ad : LocalActionAdmission) (x : EffectRecord) : DouyinActionResultFact :=
  if x.state = .verified then ⟨ad.actionId, ad.targetId, .stepCompleted,
    if ad.action = .comment then .commentConfirmed else .messageConfirmed⟩
  else ⟨ad.actionId, ad.targetId, .taskOutcomeUncertain, .recoveryUnconfirmed⟩

namespace Ledger

variable {s : Ledger} {a : ActionId} {x : EffectRecord} {ad : LocalActionAdmission}

theorem getSideEffect_eq (hx : s.effect a = some x) (ha : s.admission a = some ad)
    (hact : ad.action ≠ .browse) : s.getSideEffect a = some (some ⟨ad, x⟩) := by
  unfold getSideEffect sideEffectRow
  rw [hx, ha]
  simp [hact]

/-- A settlement that the record refuses changes nothing. -/
theorem settledUncertain_eq_self (hx : s.effect a = some x) {u : Option Time}
    (h : ∀ t, u = some t → x.settle none t = x) : s.settledUncertain a u = s := by
  cases u with
  | none => rfl
  | some t =>
    have hsweep : Book.sweep s.sideEffects (· = a) (Record.settle none t) = s.sideEffects := by
      refine Book.sweep_eq_self fun r hr => ?_
      rw [show s.sideEffects.lookup a = some x from hx] at hr
      cases hr
      exact h t rfl
    change { s with sideEffects := Book.sweep s.sideEffects (· = a) (Record.settle none t) } = s
    rw [hsweep]

@[simp] theorem settledUncertain_sent (s : Ledger) (a : ActionId) (u : Option Time) :
    (s.settledUncertain a u).sent = s.sent := by
  cases u <;> rfl

@[simp] theorem settledUncertain_checkpoints (s : Ledger) (a : ActionId) (u : Option Time) :
    (s.settledUncertain a u).checkpoints = s.checkpoints := by
  cases u <;> rfl

@[simp] theorem settledUncertain_admissions (s : Ledger) (a : ActionId) (u : Option Time) :
    (s.settledUncertain a u).admissions = s.admissions := by
  cases u <;> rfl

theorem settledUncertain_effect (s : Ledger) (a b : ActionId) (u : Option Time) :
    (s.settledUncertain a u).effect b =
      if b = a then (s.effect b).map (settledRecord · u) else s.effect b := by
  cases u with
  | none => simp [settledUncertain, settledRecord]
  | some t =>
    unfold settledUncertain effect
    rw [Book.lookup_sweep]
    by_cases h : b = a <;> simp [h, settledRecord]

end Ledger

theorem receipt_eq {e : LocalSideEffect} {state : DouyinSideEffectRecoveryState}
    {evidence : DouyinSideEffectRecoveryEvidence} {replayed : Bool}
    (hact : e.admission.action ≠ .browse)
    (h : ReceiptCheck state evidence e.record.state e.record.revision replayed) :
    receipt e state evidence replayed = some ⟨e.admission.actionId, e.admission.targetId,
      e.admission.action, state, evidence, e.record.state, e.record.revision, replayed, hact, h⟩ :=
  dif_pos ⟨hact, h⟩

section WithoutPage

variable {I : Site} {s : Ledger} {a : ActionId} {x : EffectRecord} {ad : LocalActionAdmission}

/-- A settled effect is reported as it is. -/
theorem existingReceipt_settled (hact : ad.action ≠ .browse) (hs : x.state.settled = true) :
    ∃ r, existingReceipt ⟨ad, x⟩ = some (some r) ∧
      recoveredActionResult r = some (reportedFact ad x) := by
  have hrev := x.revision_eq
  unfold existingReceipt
  cases hst : x.state with
  | verified =>
    rw [hst] at hrev
    have hcheck : ReceiptCheck .verified .alreadyVerified x.state x.revision true := by
      simp [ReceiptCheck, hst, hrev]
    refine ⟨_, congrArg some (receipt_eq hact hcheck), ?_⟩
    simp [recoveredActionResult, reportedFact, hst]
  | uncertain =>
    rw [hst] at hrev
    have hcheck : ReceiptCheck .outcomeUncertain .alreadyUncertain x.state x.revision true := by
      simp [ReceiptCheck, hst, hrev]
    refine ⟨_, congrArg some (receipt_eq hact hcheck), ?_⟩
    simp [recoveredActionResult, reportedFact, hst]
  | prepared => rw [hst] at hs; cases hs
  | dispatched => rw [hst] at hs; cases hs

/-- A dispatched effect that is not settled now is reported as uncertain. -/
theorem receipt_dispatched (hact : ad.action ≠ .browse) (hst : x.state = .dispatched) :
    existingReceipt ⟨ad, x⟩ = none ∧
      ∃ r, receipt ⟨ad, x⟩ .outcomeUncertain .pageUnavailable false = some r ∧
        recoveredActionResult r = some (reportedFact ad x) := by
  have hrev := x.revision_eq
  rw [hst] at hrev
  have hcheck : ReceiptCheck .outcomeUncertain .pageUnavailable x.state x.revision false := by
    simp [ReceiptCheck, DouyinSideEffectRecoveryEvidence.unconfirmed, hst, hrev]
  refine ⟨by unfold existingReceipt; dsimp only; rw [hst], _, receipt_eq hact hcheck, ?_⟩
  simp [recoveredActionResult, reportedFact, hst]

theorem receipt_uncertain (hact : ad.action ≠ .browse) (hst : x.state = .uncertain) :
    ∃ r, receipt ⟨ad, x⟩ .outcomeUncertain .pageUnavailable false = some r ∧
      recoveredActionResult r = some (reportedFact ad x) := by
  have hrev := x.revision_eq
  rw [hst] at hrev
  have hcheck : ReceiptCheck .outcomeUncertain .pageUnavailable x.state x.revision false := by
    simp [ReceiptCheck, DouyinSideEffectRecoveryEvidence.unconfirmed, hst, hrev]
  refine ⟨_, receipt_eq hact hcheck, ?_⟩
  simp [recoveredActionResult, reportedFact, hst]

/-- A dispatched effect is settled as uncertain when the clock allows it, and
reported as uncertain either way. -/
theorem settleUncertain_run (hx : s.effect a = some x) (ha : s.admission a = some ad)
    (hact : ad.action ≠ .browse) (hst : x.state = .dispatched) (u : Option Time) :
    ∃ r, (DouyinSideEffectRecovery.settleUncertain (.withoutPage u) ⟨ad, x⟩ .pageUnavailable).run
        (exec I) s = (some r, s.settledUncertain a u) ∧
      recoveredActionResult r = some (reportedFact ad x) := by
  obtain ⟨hex, r, hr, hfact⟩ := receipt_dispatched hact hst
  have hid : ad.actionId = a := (admission_eq_some.1 ha).2
  have hget := getSideEffect_eq hx ha hact
  obtain ⟨d, hd, -, -, -, -⟩ := x.dispatchedAt_of_dispatched hst
  cases u with
  | none =>
    refine ⟨r, ?_, hfact⟩
    simp [DouyinSideEffectRecovery.settleUncertain, DouyinSideEffectRecovery.current,
      RecoveryContext.withoutPage, exec, hid, hget, hex, hr, settledUncertain]
  | some t =>
    by_cases ht : d ≤ t
    · -- settled: the record moves to uncertain
      have hsettle : s.markSideEffectUncertain a x.intent t =
          some (⟨⟨ad, x.settle none t⟩, false⟩, s.settledUncertain a (some t)) := by
        unfold markSideEffectUncertain settleSideEffect sideEffectRow
        simp [hx, ha, hact, hst, State.outcome, hd, ht, settledUncertain, require]
      have hst' : (x.settle none t).state = .uncertain := (Record.settle_of_dispatched hst hd ht).1
      obtain ⟨r', hr', hfact'⟩ := receipt_uncertain hact hst'
      refine ⟨r', ?_, ?_⟩
      · simp [DouyinSideEffectRecovery.settleUncertain, RecoveryContext.withoutPage, exec, hid,
          hsettle, hr']
      · rw [hfact']
        simp [reportedFact, hst, hst']
    · -- the clock is behind the dispatch: refused, and read again
      have hsettle : s.markSideEffectUncertain a x.intent t = none := by
        unfold markSideEffectUncertain settleSideEffect sideEffectRow
        simp [hx, ha, hact, hst, State.outcome, hd, ht, require]
      have hself : s.settledUncertain a (some t) = s := by
        refine settledUncertain_eq_self hx fun t' h => ?_
        cases h
        exact Record.settle_of_early hd (Nat.lt_of_not_le ht)
      refine ⟨r, ?_, hfact⟩
      simp [DouyinSideEffectRecovery.settleUncertain, DouyinSideEffectRecovery.current,
        RecoveryContext.withoutPage, exec, hid, hsettle, hget, hex, hr, hself]

/-- **Recovery without a page.** Whatever the clock says, it reports a verified effect
as completed and any other that was dispatched as uncertain, and at most settles
that effect as uncertain. -/
theorem recoverFact_run (hx : s.effect a = some x) (ha : s.admission a = some ad)
    (hact : ad.action ≠ .browse) (hst : x.state ≠ .prepared) (u : Option Time) :
    (recoverFact (.withoutPage u) a).run (exec I) s =
      (some (reportedFact ad x), s.settledUncertain a u) := by
  have hget := getSideEffect_eq hx ha hact
  by_cases hsettled : x.state.settled = true
  · obtain ⟨r, hr, hfact⟩ := existingReceipt_settled hact hsettled
    have hself : s.settledUncertain a u = s := by
      refine settledUncertain_eq_self hx fun t _ => Record.settle_of_not_dispatched fun h => ?_
      rw [h] at hsettled
      cases hsettled
    simp [recoverFact, DouyinSideEffectRecovery.run, exec, hget, hst, hr, hfact, hself]
  · have hdisp : x.state = .dispatched := by
      cases h : x.state <;> simp_all [State.settled]
    obtain ⟨hex, -⟩ := receipt_dispatched hact hdisp
    obtain ⟨r, hrun, hfact⟩ := settleUncertain_run (I := I) hx ha hact hdisp u
    have hrun' : (DouyinSideEffectRecovery.run (.withoutPage u) a).run (exec I) s =
        (some r, s.settledUncertain a u) := by
      rw [← hrun]
      simp [DouyinSideEffectRecovery.run, exec, hget, hdisp, hex, RecoveryContext.withoutPage]
    unfold recoverFact
    rw [Prog.run_bind, hrun']
    dsimp only
    rw [hfact, Prog.run_ofOption]

end WithoutPage
end AutomationTool.Executor
