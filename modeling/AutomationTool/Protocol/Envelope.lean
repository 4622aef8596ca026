import Mathlib

/-!
# The wire envelope shared by the control plane and the executor

Values of these types are messages that already passed `parse_executor_message`:
the checks of the source's models are proof fields. Two encodings are fixed here.

* Canonical UUIDv4 strings are numbers, in the order of their text, so
  `ORDER BY … action_id` is `≤`. Timestamps are microseconds.
* A SHA-256 digest of a canonical JSON document is the document itself: two
  digests are equal exactly when the documents are. `Command.intent` is what
  `_command_intent_fingerprint` hashes.

Idempotency keys are text. The two sides build only the shapes `IdempotencyKey`
lists, each an injective encoding with a prefix of its own; `other` is any
text of no such shape, which only a user of the control plane can choose (and
who may choose a text of a listed shape as well).
-/
namespace AutomationTool.Protocol

/-- A UTC instant or a duration, in microseconds. -/
abbrev Time := Nat

def seconds (n : Nat) : Time := n * 1000000

abbrev MessageId := Nat
abbrev CorrelationId := Nat
abbrev InstallationId := Nat
abbrev ExecutorId := Nat
abbrev TaskId := Nat
abbrev ExecutionAttemptId := Nat
abbrev ActionId := Nat
abbrev TargetId := Nat

/-- `MAX_CROSS_RUNTIME_SEQUENCE`. mirrors limits.py:3 -/
def maxExecutorSequence : Nat := 2 ^ 53 - 1

/-- mirrors douyin_search.py:12 -/
def maxTaskTargetLimit : Nat := 100

/-- mirrors executor_envelope.py:58 -/
def maxDiscoveryBatchCandidates : Nat := 10

/-- mirrors protocol/action_authorization.py:26 -/
def actionAuthorizationMaxLifetime : Time := seconds 300

/-- mirrors protocol/action_authorization.py:27 -/
def actionAuthorizationClockSkew : Time := seconds 30

/-- mirrors douyin_search.py:15-18 -/
inductive DouyinSearchExposureAction where
  | browse | comment | directMessage
  deriving DecidableEq, Repr

/-- mirrors protocol/action_result.py:9-37 -/
inductive ActionResultEvidence where
  | awaitingExecution | actionPending | actionInProgress
  | profileVisible | commentConfirmed | messageConfirmed | executorReportedSuccess
  | userExcluded | duplicateInTask | duplicateInHistory | blacklisted | actionCancelled
  | admissionRejected | localSafetyLimit | loginRequired | dialogBlocked | messagingNotAllowed
  | followRequired | timedOut | pageVersionUnknown | conflictingAnchors | pageUnavailable
  | verificationUnavailable | executorReportedFailure
  | dispatchTimedOut | dispatchUnavailable | finalStateUnconfirmed | recoveryUnconfirmed
  deriving DecidableEq, Repr

inductive IdempotencyKey where
  /-- `action:{action_id}` -/
  | action (a : ActionId)
  /-- `executor:result:{message_id}` -/
  | result (m : MessageId)
  /-- `executor:event:{task_id}:{sequence}` -/
  | event (t : TaskId) (sequence : Nat)
  /-- `executor:recovery:{action_id}` -/
  | recovery (a : ActionId)
  /-- `executor:discovery:{attempt_id}:batch:{batch_index}` -/
  | discoveryBatch (e : ExecutionAttemptId) (batchIndex : Nat)
  /-- `executor:discovery:{attempt_id}:completed` -/
  | discoveryCompleted (e : ExecutionAttemptId)
  /-- `task:offer:{attempt_id}` -/
  | taskOffer (e : ExecutionAttemptId)
  /-- `task:discovery:start:{attempt_id}` -/
  | taskDiscoveryStart (e : ExecutionAttemptId)
  /-- `task:action-finalize:{attempt_id}` -/
  | taskActionFinalize (e : ExecutionAttemptId)
  | other (text : String)
  deriving DecidableEq, Repr

/-! ## Commands -/

/-- mirrors executor_envelope.py:325-343 -/
structure DouyinDiscoveryCommandPayload where
  keyword : String
  targetLimit : Nat
  pageRevision : Nat
  targetLimit_pos : 1 ≤ targetLimit := by decide
  targetLimit_le : targetLimit ≤ maxTaskTargetLimit := by decide
  deriving DecidableEq

/-- mirrors executor_envelope.py:463-512 -/
structure DouyinActionCommandPayload where
  actionId : ActionId
  targetId : TargetId
  action : DouyinSearchExposureAction
  platformTargetId : String
  displayName : String
  publicHandle : Option String
  pageRevision : Nat
  messageTemplate : Option String
  /-- Exactly the side-effect actions carry a message template. -/
  template_closed : messageTemplate = none ↔ action = .browse := by decide
  deriving DecidableEq

inductive CommandBody where
  | taskOffer (taskEventSequenceBaseline : Nat)
  | taskDiscover (payload : DouyinDiscoveryCommandPayload)
  | taskPause
  | taskResume
  | taskCancel
  | taskEmergencyStop
  | actionExecute (payload : DouyinActionCommandPayload)
  deriving DecidableEq

inductive CommandType where
  | taskOffer | taskDiscover | taskPause | taskResume | taskCancel | taskEmergencyStop
  | actionExecute
  deriving DecidableEq, Repr

def CommandBody.messageType : CommandBody → CommandType
  | .taskOffer _ => .taskOffer
  | .taskDiscover _ => .taskDiscover
  | .taskPause => .taskPause
  | .taskResume => .taskResume
  | .taskCancel => .taskCancel
  | .taskEmergencyStop => .taskEmergencyStop
  | .actionExecute _ => .actionExecute

/-- `TaskCommandEnvelope`, `TaskDiscoveryCommandEnvelope` and
`TaskActionCommandEnvelope`.
mirrors executor_envelope.py:206-283,515-556 -/
structure Command where
  messageId : MessageId
  sentAt : Time
  deadlineAt : Time
  installationId : InstallationId
  executorId : ExecutorId
  correlationId : CorrelationId
  idempotencyKey : IdempotencyKey
  sequence : Nat
  taskId : TaskId
  executionAttemptId : ExecutionAttemptId
  body : CommandBody
  sequence_pos : 1 ≤ sequence := by decide
  sequence_le : sequence ≤ maxExecutorSequence := by decide
  deadline_later : sentAt < deadlineAt := by decide
  baseline_lt : ∀ b, body = .taskOffer b → b < maxExecutorSequence := by simp [maxExecutorSequence]
  key_action : ∀ p, body = .actionExecute p → idempotencyKey = .action p.actionId := by simp
  deriving DecidableEq

abbrev Command.messageType (c : Command) : CommandType := c.body.messageType

/-- Every field of a command but `message_id` and `sent_at`. -/
structure CommandIntent where
  deadlineAt : Time
  installationId : InstallationId
  executorId : ExecutorId
  correlationId : CorrelationId
  idempotencyKey : IdempotencyKey
  sequence : Nat
  taskId : TaskId
  executionAttemptId : ExecutionAttemptId
  body : CommandBody
  deriving DecidableEq

/-- `_command_intent_fingerprint`.
mirrors ledger.py:3216-3225 -/
def Command.intent (c : Command) : CommandIntent where
  deadlineAt := c.deadlineAt
  installationId := c.installationId
  executorId := c.executorId
  correlationId := c.correlationId
  idempotencyKey := c.idempotencyKey
  sequence := c.sequence
  taskId := c.taskId
  executionAttemptId := c.executionAttemptId
  body := c.body

/-! ## Outbound messages -/

inductive CommandResultType where
  | taskAccept | taskReject | taskControlAck | actionAccept | actionReject
  deriving DecidableEq, Repr

inductive CommandResultPayload where
  | accepted | acknowledged
  deriving DecidableEq, Repr

/-- mirrors executor_envelope.py:571-589 -/
inductive TaskEventType where
  | taskStarted | stepStarted | stepProgress | stepCompleted | stepFailed
  | sessionLoginRequired | handoffRequested | taskPaused | taskResumed | taskCancelled
  | taskCompleted | taskPartiallyCompleted | taskFailed | taskOutcomeUncertain
  deriving DecidableEq, Repr

inductive EvidenceVersion where
  /-- `ACTION_RESULT_EVIDENCE_VERSION` -/
  | actionResultEvidenceV1
  | other (text : String)
  deriving DecidableEq, Repr

/-- The keys a task event's payload may carry. -/
structure EventPayload where
  actionId : Option ActionId := none
  evidence : Option ActionResultEvidence := none
  evidenceVersion : Option EvidenceVersion := none
  progressPercent : Option Nat := none
  deriving DecidableEq

structure DouyinCandidate where
  platformTargetId : String
  displayName : String
  publicHandle : Option String
  pageRevision : Nat
  deriving DecidableEq

inductive DiscoveryOutcome where
  | completed | loginRequired | handoffRequired | failed
  deriving DecidableEq, Repr

inductive DiscoveryEvidence where
  | candidatesExtracted | loginRequired
  | blockingDialog | pageVersionUnknown | conflictingAnchors
  | noCandidates | navigationTimedOut | homeReadyTimedOut | actionTimedOut | resultUrlTimedOut
  | resultsReadyTimedOut | resultsUnavailable | privacyRejected | resultCountDecreased
  | cancellationUnavailable | cancellationRequested | pageUnavailable
  deriving DecidableEq, Repr

/-- `_EVIDENCE_BY_STATE`.
mirrors discovery_operation.py:55-79 -/
def DiscoveryEvidence.outcome : DiscoveryEvidence → DiscoveryOutcome
  | .candidatesExtracted => .completed
  | .loginRequired => .loginRequired
  | .blockingDialog | .pageVersionUnknown | .conflictingAnchors => .handoffRequired
  | _ => .failed

structure DouyinDiscoveryBatchPayload where
  pageRevision : Nat
  batchIndex : Nat
  batchCount : Nat
  candidates : List DouyinCandidate
  deriving DecidableEq

structure DouyinDiscoveryCompletedPayload where
  outcome : DiscoveryOutcome
  evidence : DiscoveryEvidence
  pageRevision : Nat
  batchCount : Nat
  candidateCount : Nat
  deriving DecidableEq

inductive OutboundBody where
  | commandResult (type : CommandResultType) (payload : CommandResultPayload)
  | taskEvent (type : TaskEventType) (payload : EventPayload)
  | discoveryBatch (payload : DouyinDiscoveryBatchPayload)
  | discoveryCompleted (payload : DouyinDiscoveryCompletedPayload)
  deriving DecidableEq

/-- `TaskCommandResultEnvelope`, `TaskEventEnvelope`, `TaskDiscoveryBatchEnvelope`
and `TaskDiscoveryCompletedEnvelope`.
mirrors executor_envelope.py:206-283,559-605 -/
structure Outbound where
  messageId : MessageId
  sentAt : Time
  deadlineAt : Time
  installationId : InstallationId
  executorId : ExecutorId
  correlationId : CorrelationId
  idempotencyKey : IdempotencyKey
  sequence : Nat
  taskId : TaskId
  executionAttemptId : ExecutionAttemptId
  body : OutboundBody
  sequence_pos : 1 ≤ sequence := by decide
  sequence_le : sequence ≤ maxExecutorSequence := by decide
  deadline_later : sentAt < deadlineAt := by decide
  deriving DecidableEq

namespace Outbound

/-- The type of a task event; `none` for the other kinds of message. -/
def eventType (m : Outbound) : Option TaskEventType :=
  match m.body with
  | .taskEvent t _ => some t
  | _ => none

def isTaskEvent (m : Outbound) : Bool := m.eventType.isSome

def isControlAck (m : Outbound) : Bool :=
  match m.body with
  | .commandResult .taskControlAck _ => true
  | _ => false

def eventPayload (m : Outbound) : Option EventPayload :=
  match m.body with
  | .taskEvent _ p => some p
  | _ => none

theorem eventType_of_body {m : Outbound} {t : TaskEventType} {v : EventPayload}
    (h : m.body = .taskEvent t v) : m.eventType = some t := by
  unfold eventType
  rw [h]

theorem isTaskEvent_of_eventType {m : Outbound} {t : TaskEventType} (h : m.eventType = some t) :
    m.isTaskEvent = true := by
  unfold isTaskEvent
  rw [h]
  rfl

theorem eventPayload_of_body {m : Outbound} {t : TaskEventType} {v : EventPayload}
    (h : m.body = .taskEvent t v) : m.eventPayload = some v := by
  unfold eventPayload
  rw [h]

theorem eventType_of_isControlAck {m : Outbound} (h : m.isControlAck = true) :
    m.eventType = none := by
  unfold isControlAck at h
  unfold eventType
  split at h
  · rename_i hb
    rw [hb]
  · cases h

end Outbound

/-! ## Action authorization -/

/-- `ActionAuthorizationClaims`; the platform and version are constants.
mirrors protocol/action_authorization.py:58-99 -/
structure ActionAuthorizationClaims where
  actionId : ActionId
  targetId : TargetId
  executionAttemptId : ExecutionAttemptId
  taskId : TaskId
  installationId : InstallationId
  executorId : ExecutorId
  action : DouyinSearchExposureAction
  idempotencyKey : IdempotencyKey
  authorizedAt : Time
  deadlineAt : Time
  key_action : idempotencyKey = .action actionId
  authorized_lt : authorizedAt < deadlineAt
  lifetime_le : deadlineAt - authorizedAt ≤ actionAuthorizationMaxLifetime
  deriving DecidableEq

end AutomationTool.Protocol
