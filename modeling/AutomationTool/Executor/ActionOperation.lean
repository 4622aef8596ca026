import AutomationTool.Executor.ActionGate
import AutomationTool.Executor.SideEffectRecovery

/-!
# One server-authorized action

`ProductionDouyinActionOperation.run`: admit, report an action whose effect is
already past `prepared` instead of performing it, otherwise drive the browser. A
comment and a direct message go through the same execution: admit again, write the
effect ahead (`prepare`), let the skill replay take the dispatch permission right
before its external step (`begin`), then settle what it saw.

What the browser, the skill replay and the clock answer is `ActionSurroundings`;
every answer is read once. The text policy of a rendered message is one of them.

`run_uses`: the operation only ever makes the six calls of `actionCall`.
-/
namespace AutomationTool.Executor

open Protocol Dispatch Ledger

/-! ## Browsing -/

/-- mirrors browse.py:38-51 -/
inductive DouyinBrowseExecutionState where
  | completed | cancelled | timedOut | unknown
  deriving DecidableEq, Repr

inductive DouyinBrowseExecutionEvidence where
  | profileVisible | cancellationRequested | cancellationUnavailable | navigationTimedOut
  | pageVersionUnknown | pageUnavailable
  deriving DecidableEq, Repr

/-- mirrors browse.py:54-78 -/
def allowedObservations :
    List (DouyinBrowseExecutionState × DouyinBrowseExecutionEvidence) :=
  [(.completed, .profileVisible), (.cancelled, .cancellationRequested),
    (.timedOut, .navigationTimedOut), (.unknown, .cancellationUnavailable),
    (.unknown, .pageVersionUnknown), (.unknown, .pageUnavailable)]

structure DouyinBrowseExecutionObservation where
  state : DouyinBrowseExecutionState
  evidence : DouyinBrowseExecutionEvidence
  allowed : (state, evidence) ∈ allowedObservations
  deriving DecidableEq

/-- mirrors douyin/action_result.py:104-151 -/
def browseActionResult (a : ActionId) (t : TargetId)
    (observation : DouyinBrowseExecutionObservation) : DouyinActionResultFact :=
  if observation.state = .completed then ⟨a, t, .stepCompleted, .profileVisible⟩
  else ⟨a, t, .stepFailed, match observation.evidence with
    | .navigationTimedOut => .timedOut
    | .pageVersionUnknown => .pageVersionUnknown
    | .pageUnavailable => .pageUnavailable
    | _ => .executorReportedFailure⟩

/-! ## Comments and direct messages -/

/-- mirrors comment_action.py:74-94 -/
inductive SideEffectActionState where
  | notDispatched | verified | outcomeUncertain
  deriving DecidableEq, Repr

/-- `confirmed` is `COMMENT_CONFIRMED` or `MESSAGE_CONFIRMED`. -/
inductive SideEffectActionEvidence where
  | admissionRejected | localEmergencyStop | localMinimumInterval | localTaskActionLimit
  | ledgerUnavailable | skillAwaitingRecording | skillRecoveryPending | prepareUnavailable
  | dispatchPermissionRejected | skillReconcileRequired | verificationUnavailable
  | confirmed | replayVerified | replayUncertain
  deriving DecidableEq, Repr

/-- mirrors comment_action.py:156-163 -/
structure SideEffectActionReceipt where
  actionId : ActionId
  targetId : TargetId
  state : SideEffectActionState
  evidence : SideEffectActionEvidence
  deriving DecidableEq

/-- `comment_action_result` and `direct_message_action_result`.
mirrors douyin/action_result.py:154-213 -/
def sideEffectActionResult (action : DouyinSearchExposureAction) (r : SideEffectActionReceipt) :
    DouyinActionResultFact :=
  match r.state with
  | .verified => ⟨r.actionId, r.targetId, .stepCompleted,
      if action = .comment then .commentConfirmed else .messageConfirmed⟩
  | .outcomeUncertain => ⟨r.actionId, r.targetId, .taskOutcomeUncertain,
      if r.evidence = .replayUncertain then .recoveryUnconfirmed else .finalStateUnconfirmed⟩
  | .notDispatched => ⟨r.actionId, r.targetId, .stepFailed, match r.evidence with
    | .admissionRejected => .admissionRejected
    | .localEmergencyStop | .localMinimumInterval | .localTaskActionLimit => .localSafetyLimit
    | .skillAwaitingRecording | .skillRecoveryPending => .pageVersionUnknown
    | .prepareUnavailable => .pageUnavailable
    | _ => .executorReportedFailure⟩

/-- mirrors skill_orchestrator.py:66-70 -/
inductive SkillExecutionKind where
  | replayed | noRoute | recoveryPending | reconcileRequired
  deriving DecidableEq, Repr

/-- What a skill replay does as long as the dispatch hook lets it. -/
structure SkillExecution where
  /-- The orchestrator and the replay page could be built. -/
  ready : Bool
  /-- How often the hook is called before an external step. -/
  hooks : Nat
  /-- The report; `none` when `execute` raises. -/
  report : Option SkillExecutionKind

/-- What the outside answers during one run of the operation. -/
structure ActionSurroundings where
  authorizedAt : Option Time
  admittedAt : Option Time
  recoveredAt : Option Time
  /-- The browser was leased and started and shows a window. -/
  browser : Bool
  /-- `none` when the browse execution raises. -/
  browse : Option DouyinBrowseExecutionObservation
  /-- The video entry was clicked, or the profile page reached. -/
  entry : Bool
  /-- `ActionMessageTemplate` takes the rendered message, and finds no variable in it. -/
  allowsMessage : String → Bool
  /-- The readings of the execution's own admission. -/
  againAuthorizedAt : Option Time
  againAdmittedAt : Option Time
  preparedAt : Option Time
  skill : SkillExecution
  dispatchedAt : Nat → Option Time
  verifiedAt : Option Time
  uncertainAt : Option Time

/-- mirrors comment_action.py:490-500 -/
def limitEvidence : ActionAdmissionLimitReason → SideEffectActionEvidence
  | .emergencyStop => .localEmergencyStop
  | .minimumInterval => .localMinimumInterval
  | .taskActionLimit => .localTaskActionLimit

namespace SideEffectActionExecution

variable (expected : ActionAuthorizationExpectation)

def receiptOf (state : SideEffectActionState) (evidence : SideEffectActionEvidence) :
    SideEffectActionReceipt := ⟨expected.actionId, expected.targetId, state, evidence⟩

/-- `_receipt_for_existing`: only a replayed effect past `prepared` has one.
mirrors comment_action.py:503-523 -/
def receiptForExisting (effect : Reply LocalSideEffect) : Option SideEffectActionReceipt :=
  if effect.replayed = false ∨ effect.value.record.state = .prepared then none
  else if effect.value.record.state = .verified then
    some (receiptOf expected .verified .replayVerified)
  else some (receiptOf expected .outcomeUncertain .replayUncertain)

/-- mirrors comment_action.py:446-468 -/
def effectFingerprint (message : String) : Digest := .effect
  { action := expected.action, actionId := expected.actionId,
    executionAttemptId := expected.executionAttemptId, executorId := expected.executorId,
    idempotencyKey := expected.idempotencyKey, installationId := expected.installationId,
    message := message, targetId := expected.targetId, taskId := expected.taskId }

/-- The two exceptions of the dispatch hook, `_DispatchRefused` and `_EffectSettled`. -/
inductive Stopped where
  | refused
  | settled (r : SideEffectActionReceipt)

/-- `begin_dispatch`.
mirrors comment_action.py:325-338 -/
def beginDispatch (fingerprint : Digest) (now : Option Time) :
    Prog Op Op.Ret (Except Stopped LocalSideEffect) := do
  let begun : Option (Reply LocalSideEffect) ← Prog.given now fun t =>
    Op.call (.beginSideEffectDispatch expected.actionId fingerprint t)
  match begun with
  | none => pure (.error .refused)
  | some effect =>
    match receiptForExisting expected effect with
    | some r => pure (.error (.settled r))
    | none => pure (.ok effect.value)

/-- The hook calls of a replay; an exception of the hook ends it. Returns the head
of `dispatched_effects`. -/
def hooks (fingerprint : Digest) (dispatchedAt : Nat → Option Time) :
    (remaining : Nat) → Option LocalSideEffect →
      Prog Op Op.Ret (Except Stopped (Option LocalSideEffect))
  | 0, first => pure (.ok first)
  | n + 1, first => do
    let begun ← beginDispatch expected fingerprint (dispatchedAt n)
    match begun with
    | .ok effect => hooks fingerprint dispatchedAt n (some (first.getD effect))
    | .error stopped => pure (.error stopped)

/-- mirrors comment_action.py:411-431 -/
def uncertain (fingerprint : Digest) (evidence : SideEffectActionEvidence) (now : Option Time) :
    Prog Op Op.Ret SideEffectActionReceipt := do
  let _settled : Option (Reply LocalSideEffect) ← Prog.given now fun t =>
    Op.call (.markSideEffectUncertain expected.actionId fingerprint t)
  pure (receiptOf expected .outcomeUncertain evidence)

/-- From the prepared effect to the receipt.
mirrors comment_action.py:313-409 -/
def replay (w : ActionSurroundings) (fingerprint : Digest) :
    Prog Op Op.Ret SideEffectActionReceipt :=
  if w.skill.ready = false then pure (receiptOf expected .notDispatched .prepareUnavailable)
  else do
    let ended ← hooks expected fingerprint w.dispatchedAt w.skill.hooks none
    match ended with
    | .error .refused => pure (receiptOf expected .notDispatched .dispatchPermissionRejected)
    | .error (.settled r) => pure r
    | .ok first =>
      match w.skill.report, first with
      | none, some _ | some .reconcileRequired, some _ =>
        uncertain expected fingerprint .skillReconcileRequired w.uncertainAt
      | none, none | some .reconcileRequired, none | some .replayed, none =>
        pure (receiptOf expected .notDispatched .prepareUnavailable)
      | some .noRoute, _ => pure (receiptOf expected .notDispatched .skillAwaitingRecording)
      | some .recoveryPending, _ => pure (receiptOf expected .notDispatched .skillRecoveryPending)
      | some .replayed, some _ => do
        let verified : Option (Reply LocalSideEffect) ← Prog.given w.verifiedAt fun t =>
          Op.call (.verifySideEffect expected.actionId fingerprint
            (.verification expected.action fingerprint) t)
        match verified with
        | none => uncertain expected fingerprint .verificationUnavailable w.uncertainAt
        | some _ => pure (receiptOf expected .verified .confirmed)

/-- mirrors comment_action.py:285-312 -/
def run (gate : ExecutorActionGate) (w : ActionSurroundings) (message : String) :
    Prog Op Op.Ret SideEffectActionReceipt := do
  let admitted ← gate.admitExpected expected w.againAuthorizedAt w.againAdmittedAt
  match admitted with
  | .error (.limited reason) => pure (receiptOf expected .notDispatched (limitEvidence reason))
  | .error .rejected => pure (receiptOf expected .notDispatched .admissionRejected)
  | .ok _ => do
    let prepared : Option (Reply LocalSideEffect) ← Prog.given w.preparedAt fun t =>
      Op.call (.prepareSideEffect expected.actionId (effectFingerprint expected message) t)
    match prepared with
    | none => pure (receiptOf expected .notDispatched .ledgerUnavailable)
    | some effect =>
      match receiptForExisting expected effect with
      | some r => pure r
      | none => replay expected w (effectFingerprint expected message)

end SideEffectActionExecution

/-! ## The operation -/

/-- mirrors action_operation.py:323-335 -/
def expectation (c : Command) (q : DouyinActionCommandPayload) (h : c.body = .actionExecute q) :
    ActionAuthorizationExpectation where
  actionId := q.actionId
  targetId := q.targetId
  executionAttemptId := c.executionAttemptId
  taskId := c.taskId
  installationId := c.installationId
  executorId := c.executorId
  action := q.action
  idempotencyKey := c.idempotencyKey
  key_action := c.key_action q h

/-- `str.replace`, for a pattern that is not empty: every step drops a character. -/
def replaceAll (pattern new : List Char) : (fuel : Nat) → List Char → List Char
  | 0, text => text
  | _ + 1, [] => []
  | n + 1, c :: text =>
    if pattern.isPrefixOf (c :: text) then
      new ++ replaceAll pattern new n ((c :: text).drop pattern.length)
    else c :: replaceAll pattern new n text

/-- `_rendered_message`: the one variable replaced by the target's display name.
mirrors comment_action.py:133-139 -/
def renderedMessage (q : DouyinActionCommandPayload) : String :=
  let template := (q.messageTemplate.getD "").toList
  String.ofList (replaceAll "\x7b\x7btarget_display_name\x7d\x7d".toList q.displayName.toList
    template.length template)

namespace ProductionDouyinActionOperation

/-- `_failure`. mirrors action_operation.py:351-360 -/
def failure (q : DouyinActionCommandPayload) (evidence : ActionResultEvidence) :
    DouyinActionResultFact := ⟨q.actionId, q.targetId, .stepFailed, evidence⟩

variable (gate : ExecutorActionGate) (w : ActionSurroundings)

/-- An effect that is past `prepared` is reported, never performed again; `some none`
when there is nothing to report.
mirrors action_operation.py:221-230 -/
def alreadyDispatched (q : DouyinActionCommandPayload) :
    Prog Op Op.Ret (Option (Option DouyinActionResultFact)) :=
  if q.action = .browse then pure (some none)
  else Prog.attempt do
    let found : Option (Option LocalSideEffect) ← Op.call (.getSideEffect q.actionId)
    match found with
    | none => Prog.raise
    | some none => pure none
    | some (some effect) =>
      if effect.record.state = .prepared then pure none
      else do
        let fact ← recoverFact (.withoutPage w.recoveredAt) q.actionId
        pure (some fact)

/-- A comment or a direct message, once the page is reached.
mirrors action_operation.py:259-320 -/
def sideEffect (expected : ActionAuthorizationExpectation) (q : DouyinActionCommandPayload) :
    Prog Op Op.Ret DouyinActionResultFact := do
  Prog.require (w.entry = true)
  Prog.require (w.allowsMessage (renderedMessage q) = true)
  let r ← SideEffectActionExecution.run expected gate w (renderedMessage q)
  pure (sideEffectActionResult q.action r)

/-- `_comment`: only from the target's profile.
mirrors action_operation.py:259-291 -/
def comment (expected : ActionAuthorizationExpectation) (q : DouyinActionCommandPayload) :
    Prog Op Op.Ret DouyinActionResultFact := do
  let observation ← Prog.ofOption w.browse
  if observation.state = .completed then sideEffect gate w expected q
  else pure (browseActionResult q.actionId q.targetId observation)

/-- mirrors action_operation.py:293-320 -/
def directMessage (expected : ActionAuthorizationExpectation) (q : DouyinActionCommandPayload) :
    Prog Op Op.Ret DouyinActionResultFact := sideEffect gate w expected q

/-- mirrors action_operation.py:232-252 -/
def perform (expected : ActionAuthorizationExpectation) (q : DouyinActionCommandPayload) :
    Prog Op Op.Ret DouyinActionResultFact := do
  Prog.require (w.browser = true)
  match q.action with
  | .browse => do
    let observation ← Prog.ofOption w.browse
    pure (browseActionResult q.actionId q.targetId observation)
  | .comment => comment gate w expected q
  | .directMessage => directMessage gate w expected q

/-- mirrors action_operation.py:210-257 -/
def run (c : Command) (q : DouyinActionCommandPayload) (h : c.body = .actionExecute q) :
    Prog Op Op.Ret DouyinActionResultFact := do
  let admitted ← gate.admitExpected (expectation c q h) w.authorizedAt w.admittedAt
  match admitted with
  | .error (.limited _) => pure (failure q .localSafetyLimit)
  | .error .rejected => pure (failure q .admissionRejected)
  | .ok _ => do
    let reported ← alreadyDispatched w q
    match reported with
    | none => pure (failure q .executorReportedFailure)
    | some (some fact) => pure fact
    | some none => do
      let performed ← (perform gate w (expectation c q h) q).attempt
      pure (performed.getD (failure q .pageUnavailable))

end ProductionDouyinActionOperation

/-! ## Which calls it makes -/

/-- The calls of an action: admission and the side effects, nothing else. -/
def actionCall : Op → Prop
  | .admitAction .. | .getSideEffect _ | .prepareSideEffect .. | .beginSideEffectDispatch ..
  | .verifySideEffect .. | .markSideEffectUncertain .. => True
  | _ => False

open Prog

theorem admitExpected_uses (gate : ExecutorActionGate) (e : ActionAuthorizationExpectation)
    (t u : Option Time) : (gate.admitExpected e t u).uses actionCall := by
  unfold ExecutorActionGate.admitExpected
  split
  · exact uses_bind (uses_op.2 trivial) fun _ => trivial
  · exact trivial

theorem settleUncertain_uses (context : RecoveryContext) (effect : LocalSideEffect)
    (evidence : DouyinSideEffectRecoveryEvidence) :
    (DouyinSideEffectRecovery.settleUncertain context effect evidence).uses actionCall := by
  refine uses_bind (uses_given fun _ => uses_op.2 trivial) fun settled => ?_
  cases settled with
  | some r =>
    dsimp only
    split <;> exact uses_ofOption _
  | none =>
    refine uses_bind (uses_bind (uses_op.2 trivial) fun _ => trivial) fun e => ?_
    split <;> exact uses_ofOption _

theorem recoveryVerify_uses (context : RecoveryContext) (effect : LocalSideEffect) (f : Digest)
    (evidence : DouyinSideEffectRecoveryEvidence) :
    (DouyinSideEffectRecovery.verify context effect f evidence).uses actionCall := by
  refine uses_bind (uses_given fun _ => uses_op.2 trivial) fun verified => ?_
  cases verified with
  | some r =>
    dsimp only
    split <;> exact uses_ofOption _
  | none =>
    refine uses_bind (uses_bind (uses_op.2 trivial) fun _ => trivial) fun e => ?_
    split
    · exact uses_ofOption _
    · exact settleUncertain_uses _ _ _

theorem recoverFact_uses (context : RecoveryContext) (a : ActionId) :
    (recoverFact context a).uses actionCall := by
  refine uses_bind (uses_bind (uses_op.2 trivial) fun found => ?_) fun r => uses_ofOption _
  refine uses_bind (uses_ofOption _) fun effect => ?_
  split
  · exact uses_ofOption _
  · split
    · exact uses_ofOption _
    · split
      · exact settleUncertain_uses _ _ _
      · exact settleUncertain_uses _ _ _
      · exact settleUncertain_uses _ _ _
      · exact recoveryVerify_uses _ _ _ _

namespace SideEffectActionExecution

variable (expected : ActionAuthorizationExpectation)

theorem beginDispatch_uses (f : Digest) (t : Option Time) :
    (beginDispatch expected f t).uses actionCall := by
  refine uses_bind (uses_given fun _ => uses_op.2 trivial) fun r => ?_
  cases r with
  | none => exact trivial
  | some e =>
    dsimp only
    split <;> exact trivial

theorem hooks_uses (f : Digest) (d : Nat → Option Time) (n : Nat) (first : Option LocalSideEffect) :
    (hooks expected f d n first).uses actionCall := by
  induction n generalizing first with
  | zero => exact trivial
  | succ n ih =>
    refine uses_bind (beginDispatch_uses expected f _) fun r => ?_
    cases r with
    | error => exact trivial
    | ok e => exact ih _

theorem uncertain_uses (f : Digest) (evidence : SideEffectActionEvidence) (t : Option Time) :
    (uncertain expected f evidence t).uses actionCall :=
  uses_bind (uses_given fun _ => uses_op.2 trivial) fun _ => trivial

theorem replay_uses (w : ActionSurroundings) (f : Digest) :
    (replay expected w f).uses actionCall := by
  unfold replay
  split
  · exact trivial
  · refine uses_bind (hooks_uses expected f _ _ _) fun ended => ?_
    cases ended with
    | error stopped => cases stopped <;> exact trivial
    | ok first =>
      dsimp only
      split
      · exact uncertain_uses expected f _ _
      · exact uncertain_uses expected f _ _
      · exact trivial
      · exact trivial
      · exact trivial
      · exact trivial
      · exact trivial
      · refine uses_bind (uses_given fun _ => uses_op.2 trivial) fun verified => ?_
        cases verified with
        | none => exact uncertain_uses expected f _ _
        | some _ => exact trivial

theorem run_uses (gate : ExecutorActionGate) (w : ActionSurroundings) (message : String) :
    (run expected gate w message).uses actionCall := by
  refine uses_bind (admitExpected_uses _ _ _ _) fun admitted => ?_
  cases admitted with
  | error e => cases e <;> exact trivial
  | ok _ =>
    refine uses_bind (uses_given fun _ => uses_op.2 trivial) fun prepared => ?_
    cases prepared with
    | none => exact trivial
    | some effect =>
      dsimp only
      split
      · exact trivial
      · exact replay_uses expected w _

end SideEffectActionExecution

namespace ProductionDouyinActionOperation

theorem sideEffect_uses (gate : ExecutorActionGate) (w : ActionSurroundings)
    (e : ActionAuthorizationExpectation) (q : DouyinActionCommandPayload) :
    (sideEffect gate w e q).uses actionCall :=
  uses_bind (uses_require _) fun _ => uses_bind (uses_require _) fun _ =>
    uses_bind (SideEffectActionExecution.run_uses e gate w _) fun _ => trivial

theorem perform_uses (gate : ExecutorActionGate) (w : ActionSurroundings)
    (e : ActionAuthorizationExpectation) (q : DouyinActionCommandPayload) :
    (perform gate w e q).uses actionCall := by
  refine uses_bind (uses_require _) fun _ => ?_
  cases q.action with
  | browse => exact uses_bind (uses_ofOption _) fun _ => trivial
  | comment =>
    refine uses_bind (uses_ofOption _) fun o => ?_
    split
    · exact sideEffect_uses gate w e q
    · exact trivial
  | directMessage => exact sideEffect_uses gate w e q

theorem alreadyDispatched_uses (w : ActionSurroundings) (q : DouyinActionCommandPayload) :
    (alreadyDispatched w q).uses actionCall := by
  unfold alreadyDispatched
  split
  · exact trivial
  · refine uses_attempt (uses_bind (uses_op.2 trivial) fun found => ?_)
    split
    · exact trivial
    · exact trivial
    · split
      · exact trivial
      · exact uses_bind (recoverFact_uses _ _) fun _ => trivial

/-- **An action only admits, prepares, dispatches and settles.** -/
theorem run_uses (gate : ExecutorActionGate) (w : ActionSurroundings) (c : Command)
    (q : DouyinActionCommandPayload) (h : c.body = .actionExecute q) :
    (run gate w c q h).uses actionCall := by
  refine uses_bind (admitExpected_uses _ _ _ _) fun admitted => ?_
  cases admitted with
  | error e => cases e <;> exact trivial
  | ok _ =>
    refine uses_bind (alreadyDispatched_uses w q) fun reported => ?_
    cases reported with
    | none => exact trivial
    | some fact =>
      cases fact with
      | some fact => exact trivial
      | none => exact uses_bind (uses_attempt (perform_uses _ _ _ _)) fun _ => trivial

end ProductionDouyinActionOperation
end AutomationTool.Executor
