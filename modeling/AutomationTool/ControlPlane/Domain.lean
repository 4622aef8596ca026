import AutomationTool.Protocol.Envelope

/-!
# The control plane's domain

Closed vocabularies and the tables of allowed moves between them: tasks
(`TaskStateMachine`), execution attempts, actions and task commands, with the
evidence each action outcome admits. Values of the structures at the end passed
the checks of the source's constructors, which are their proof fields; the text
rules of keywords, templates and names are left to the parser that built them.

After `mirrors`, here and in all modules, a source file is named by the end of its path.
-/
namespace AutomationTool.ControlPlane

open Protocol

/-- `MAX_TASK_EVENT_SEQUENCE`.
mirrors domain/task_events.py:13 -/
def maxTaskEventSequence : Nat := maxExecutorSequence

/-- `MAX_ACTION_RISK_LIMIT`.
mirrors action_risk_policy.py:18 -/
def maxActionRiskLimit : Nat := maxExecutorSequence

/-- mirrors task_definitions.py:22 -/
def maxTaskIntervalSeconds : Nat := 3600

/-- mirrors task_state_machine.py:11-29 -/
inductive TaskStatus where
  | draft | validating | awaitingDevice | awaitingPlatformLogin | discoveringTargets
  | awaitingConfirmation | queued | running | paused | awaitingHuman | cancelling
  | succeeded | partiallySucceeded | failed | cancelled | outcomeUncertain
  deriving DecidableEq, Repr

namespace TaskStateMachine

/-- `_TERMINAL_STATUSES`. -/
def isTerminal : TaskStatus → Bool
  | .succeeded | .partiallySucceeded | .failed | .cancelled | .outcomeUncertain => true
  | _ => false

/-- `_TRANSITIONS`.
mirrors task_state_machine.py:49-138 -/
def allowedTargets : TaskStatus → List TaskStatus
  | .draft => [.validating]
  | .validating => [.awaitingDevice, .cancelling, .failed]
  | .awaitingDevice => [.awaitingPlatformLogin, .cancelling, .failed]
  | .awaitingPlatformLogin => [.discoveringTargets, .cancelling, .failed]
  | .discoveringTargets =>
    [.awaitingPlatformLogin, .awaitingConfirmation, .awaitingHuman, .cancelling, .failed]
  | .awaitingConfirmation => [.discoveringTargets, .queued, .cancelling]
  | .queued => [.awaitingDevice, .running, .cancelling, .failed]
  | .running =>
    [.paused, .awaitingHuman, .cancelling, .succeeded, .partiallySucceeded, .failed,
      .outcomeUncertain]
  | .paused => [.running, .awaitingHuman, .cancelling]
  | .awaitingHuman => [.discoveringTargets, .running, .cancelling, .failed, .outcomeUncertain]
  | .cancelling => [.succeeded, .partiallySucceeded, .failed, .cancelled, .outcomeUncertain]
  | .succeeded | .partiallySucceeded | .failed | .cancelled | .outcomeUncertain => []

def canTransition (current target : TaskStatus) : Bool := (allowedTargets current).contains target

/-- Nothing leaves a terminal status. -/
theorem not_canTransition_of_isTerminal {s t : TaskStatus} (h : isTerminal s = true) :
    canTransition s t = false := by
  cases s <;> first | rfl | cases h

end TaskStateMachine

/-- mirrors execution_models.py:7-23 -/
inductive ExecutionAttemptStatus where
  | pending | offered | accepted | running | paused | awaitingHuman | cancelling
  | succeeded | partiallySucceeded | failed | cancelled | rejected | expired | outcomeUncertain
  deriving DecidableEq, Repr

/-- `TERMINAL_EXECUTION_ATTEMPT_STATUSES`. -/
def ExecutionAttemptStatus.isTerminal : ExecutionAttemptStatus → Bool
  | .succeeded | .partiallySucceeded | .failed | .cancelled | .rejected | .expired
  | .outcomeUncertain => true
  | _ => false

/-- mirrors execution_models.py:39-48 -/
inductive ActionStatus where
  | planned | authorized | prepared | dispatched | verified | cancelled | outcomeUncertain
  deriving DecidableEq, Repr

/-- `TERMINAL_ACTION_STATUSES`. -/
def ActionStatus.isTerminal : ActionStatus → Bool
  | .verified | .cancelled | .outcomeUncertain => true
  | _ => false

/-- mirrors execution_models.py:60-67 -/
inductive ActionOutcome where
  | pending | succeeded | failed | cancelled | outcomeUncertain
  deriving DecidableEq, Repr

/-- The evidence codes an outcome may carry: `SUCCESS_`, `FAILED_`,
`UNCERTAIN_ACTION_RESULT_EVIDENCE` and `action_cancelled`.
mirrors protocol/action_result.py:40-83 -/
def ActionOutcome.admits : ActionOutcome → ActionResultEvidence → Bool
  | .succeeded, .profileVisible | .succeeded, .commentConfirmed | .succeeded, .messageConfirmed
  | .succeeded, .executorReportedSuccess => true
  | .failed, .admissionRejected | .failed, .localSafetyLimit | .failed, .loginRequired
  | .failed, .dialogBlocked | .failed, .messagingNotAllowed | .failed, .followRequired
  | .failed, .timedOut | .failed, .pageVersionUnknown | .failed, .conflictingAnchors
  | .failed, .pageUnavailable | .failed, .verificationUnavailable
  | .failed, .executorReportedFailure => true
  | .cancelled, .actionCancelled => true
  | .outcomeUncertain, .dispatchTimedOut | .outcomeUncertain, .dispatchUnavailable
  | .outcomeUncertain, .finalStateUnconfirmed | .outcomeUncertain, .recoveryUnconfirmed => true
  | _, _ => false

/-- mirrors domain/task_commands.py:7-15 -/
abbrev TaskCommandType := CommandType

/-- mirrors domain/task_commands.py:17-23 -/
abbrev TaskCommandResponseType := CommandResultType

/-- mirrors domain/task_commands.py:25-32 -/
inductive TaskCommandStatus where
  | pending | inFlight | delivered | acknowledged | rejected | expired
  deriving DecidableEq, Repr

/-- `TERMINAL_TASK_COMMAND_STATUSES`. -/
def TaskCommandStatus.isTerminal : TaskCommandStatus → Bool
  | .acknowledged | .rejected | .expired => true
  | _ => false

/-- The event types of a task's timeline.
mirrors domain/task_events.py:23-47 -/
inductive TaskEventType where
  | taskCreated | taskValidationStarted | taskValidationFailed | taskAwaitingPlatformLogin
  | taskDiscoveryStarted | taskAwaitingConfirmation | taskTargetSelectionUpdated
  | taskTargetsConfirmed | taskStarted | stepStarted | stepProgress | stepCompleted | stepFailed
  | taskAwaitingHuman | taskPaused | taskResumed | taskCancelling | taskCancelled
  | taskCompleted | taskPartiallyCompleted | taskFailed | taskOutcomeUncertain
  deriving DecidableEq, Repr

/-- mirrors douyin_candidate_policy.py:27-31 -/
inductive DouyinCandidateDisposition where
  | eligible | duplicateInTask | duplicateInHistory | blacklisted
  deriving DecidableEq, Repr

/-- mirrors executor_envelope.py:298 -/
inductive PlatformSessionState where
  | healthy | expired | missing | risk | unknown
  deriving DecidableEq, Repr

/-- The UTC calendar day of an instant, `timestamp.date()`. -/
def utcDay (t : Time) : Nat := t / seconds 86400

/-- One installation/platform/action counter scope; the platform is a constant.
mirrors action_risk_policy.py:35-49 -/
structure ActionRiskScope where
  installationId : InstallationId
  action : DouyinSearchExposureAction
  deriving DecidableEq

/-- mirrors action_risk_policy.py:59-92 -/
structure ActionRiskPolicy where
  scope : ActionRiskScope
  minimumIntervalSeconds : Nat
  taskActionLimit : Nat
  dailyActionLimit : Nat
  consecutiveFailureThreshold : Nat
  interval_mem : 1 ≤ minimumIntervalSeconds ∧ minimumIntervalSeconds ≤ maxTaskIntervalSeconds :=
    by decide
  task_mem : 1 ≤ taskActionLimit ∧ taskActionLimit ≤ maxTaskTargetLimit := by decide
  daily_mem : 1 ≤ dailyActionLimit ∧ dailyActionLimit ≤ maxActionRiskLimit := by decide
  threshold_mem : 1 ≤ consecutiveFailureThreshold ∧
    consecutiveFailureThreshold ≤ maxActionRiskLimit := by decide
  deriving DecidableEq

/-- mirrors task_definitions.py:31-75 -/
@[ext] structure DouyinSearchExposureDefinition where
  searchKeyword : String
  action : DouyinSearchExposureAction
  messageTemplate : Option String
  targetLimit : Nat
  minimumIntervalSeconds : Nat
  maximumIntervalSeconds : Nat
  template_closed : messageTemplate = none ↔ action = .browse := by decide
  target_mem : 1 ≤ targetLimit ∧ targetLimit ≤ maxTaskTargetLimit := by decide
  minimum_pos : 1 ≤ minimumIntervalSeconds := by decide
  minimum_le : minimumIntervalSeconds ≤ maximumIntervalSeconds := by decide
  maximum_le : maximumIntervalSeconds ≤ maxTaskIntervalSeconds := by decide

instance : DecidableEq DouyinSearchExposureDefinition := fun _ _ => decidable_of_iff' _ DouyinSearchExposureDefinition.ext_iff

/-- The document whose digest a confirmation stores.
mirrors application/task_target_previews.py:171-228 -/
structure TaskTargetConfirmationIntent where
  installationId : InstallationId
  taskId : TaskId
  pageRevision : Nat
  confirmationRevision : Nat
  action : DouyinSearchExposureAction
  messageTemplate : Option String
  selectedTargetIds : List TargetId
  deriving DecidableEq

/-- `__post_init__` of the intent; a definition's template fits its action by construction. -/
def TaskTargetConfirmationIntent.Valid (i : TaskTargetConfirmationIntent) : Prop :=
  1 ≤ i.pageRevision ∧ i.pageRevision ≤ maxExecutorSequence ∧
    1 ≤ i.confirmationRevision ∧ i.confirmationRevision ≤ maxExecutorSequence ∧
    1 ≤ i.selectedTargetIds.length ∧ i.selectedTargetIds.length ≤ maxTaskTargetLimit ∧
    i.selectedTargetIds.Nodup

instance (i : TaskTargetConfirmationIntent) : Decidable i.Valid := by
  unfold TaskTargetConfirmationIntent.Valid
  infer_instance

/-- Every field of an executor message but `message_id` and `sent_at`. -/
structure OutboundIntent where
  deadlineAt : Time
  installationId : InstallationId
  executorId : ExecutorId
  correlationId : CorrelationId
  idempotencyKey : IdempotencyKey
  sequence : Nat
  taskId : TaskId
  executionAttemptId : ExecutionAttemptId
  body : OutboundBody
  deriving DecidableEq

/-- What `_source_fingerprint` hashes.
mirrors task_event_convergence.py:213-225 -/
def outboundIntent (m : Outbound) : OutboundIntent where
  deadlineAt := m.deadlineAt
  installationId := m.installationId
  executorId := m.executorId
  correlationId := m.correlationId
  idempotencyKey := m.idempotencyKey
  sequence := m.sequence
  taskId := m.taskId
  executionAttemptId := m.executionAttemptId
  body := m.body

/-- The documents whose digests `source_fingerprint` columns hold, one constructor
for each that the source builds. -/
inductive SourceFingerprint where
  | message (intent : OutboundIntent)
  /-- `{installation}:{task}:{attempt}:task.discovery_started` -/
  | discoveryStarted (i : InstallationId) (t : TaskId) (e : ExecutionAttemptId)
  /-- `task-action-finalize-v1:{installation}:{task}:{attempt}:{sequence}:{status}` -/
  | actionFinalized (i : InstallationId) (t : TaskId) (e : ExecutionAttemptId) (sequence : Nat)
      (status : TaskStatus)
  | replaceExclusions (i : InstallationId) (t : TaskId) (pageRevision expectedTaskRevision : Nat)
      (targets : List TargetId)
  | confirm (i : InstallationId) (t : TaskId) (pageRevision expectedTaskRevision : Nat)
  deriving DecidableEq

end AutomationTool.ControlPlane
