import AutomationTool.Core.Relation
import AutomationTool.ControlPlane.Domain

/-!
# The control plane's database

The rows of the tables the task lifecycle lives in, each with its keys (`Row`) and
`CHECK`s (`Schema`), and `Db`, all the tables. A nullable column of a key takes
part only where it is not null. Columns that are a constant (`platform`,
`policy_version`, `event_version`) are left out.

The `insert` operations at the end also check the foreign keys of their table.
mirrors database/schema.py:424-2111
-/
namespace AutomationTool.ControlPlane

open Protocol

inductive InstallationStatus where
  | active | revoked
  deriving DecidableEq, Repr

structure Installation where
  id : InstallationId
  status : InstallationStatus
  revision : Nat
  createdAt : Time
  updatedAt : Time
  revokedAt : Option Time
  deriving DecidableEq

instance : Schema Installation where
  apart a b := a.id ≠ b.id
  symm h := Ne.symm h
  irrefl _ h := h rfl
  dec _ _ := inferInstanceAs (Decidable (_ ≠ _))
  check r := 0 < r.revision ∧ (r.status = .active ↔ r.revokedAt = none) ∧
    r.createdAt ≤ r.updatedAt ∧ ∀ t ∈ r.revokedAt, r.createdAt ≤ t
  decCheck r := by infer_instance

structure PlatformSessionHealth where
  installationId : InstallationId
  state : PlatformSessionState
  sessionRevision : Nat
  observedAt : Time
  updatedAt : Time
  deriving DecidableEq

instance : Schema PlatformSessionHealth where
  apart a b := a.installationId ≠ b.installationId
  symm h := Ne.symm h
  irrefl _ h := h rfl
  dec _ _ := inferInstanceAs (Decidable (_ ≠ _))
  check r := 0 < r.sessionRevision ∧ r.observedAt ≤ r.updatedAt
  decCheck r := by infer_instance

structure PlatformSessionGate where
  installationId : InstallationId
  sessionRevision : Nat
  updatedAt : Time
  deriving DecidableEq

instance : Schema PlatformSessionGate where
  apart a b := a.installationId ≠ b.installationId
  symm h := Ne.symm h
  irrefl _ h := h rfl
  dec _ _ := inferInstanceAs (Decidable (_ ≠ _))
  check r := 0 < r.sessionRevision
  decCheck r := by infer_instance

structure Task where
  id : TaskId
  installationId : InstallationId
  creationIdempotencyKey : IdempotencyKey
  currentAttemptId : Option ExecutionAttemptId
  lastEventSequence : Nat
  status : TaskStatus
  revision : Nat
  createdAt : Time
  updatedAt : Time
  deriving DecidableEq

instance : Schema Task where
  apart a b := a.id ≠ b.id ∧
    ¬(a.installationId = b.installationId ∧ a.creationIdempotencyKey = b.creationIdempotencyKey)
  symm h := ⟨Ne.symm h.1, fun e => h.2 ⟨e.1.symm, e.2.symm⟩⟩
  irrefl _ h := h.1 rfl
  dec _ _ := inferInstanceAs (Decidable (_ ∧ _))
  check r := 0 < r.revision ∧ r.lastEventSequence ≤ maxTaskEventSequence ∧
    r.createdAt ≤ r.updatedAt
  decCheck r := by infer_instance

/-- A row of `douyin_search_exposure_definitions`. -/
structure Definition extends DouyinSearchExposureDefinition where
  taskId : TaskId
  installationId : InstallationId
  deriving DecidableEq

instance : Schema Definition where
  apart a b := a.taskId ≠ b.taskId
  symm h := Ne.symm h
  irrefl _ h := h rfl
  dec _ _ := inferInstanceAs (Decidable (_ ≠ _))
  check _ := True
  decCheck r := by infer_instance

/-- The dedupe key of a candidate is a digest of its platform target id. -/
structure TaskTarget where
  id : TargetId
  taskId : TaskId
  installationId : InstallationId
  ordinal : Nat
  candidate : DouyinCandidate
  disposition : DouyinCandidateDisposition
  evaluatedAt : Time
  createdAt : Time
  deriving DecidableEq

abbrev TaskTarget.pageRevision (r : TaskTarget) : Nat := r.candidate.pageRevision

instance : Schema TaskTarget where
  apart a b := a.id ≠ b.id ∧
    ¬(a.taskId = b.taskId ∧ a.installationId = b.installationId ∧ a.ordinal = b.ordinal)
  symm h := ⟨Ne.symm h.1, fun e => h.2 ⟨e.1.symm, e.2.1.symm, e.2.2.symm⟩⟩
  irrefl _ h := h.1 rfl
  dec _ _ := inferInstanceAs (Decidable (_ ∧ _))
  check r := 1 ≤ r.ordinal ∧ r.ordinal ≤ maxTaskTargetLimit ∧ 1 ≤ r.pageRevision ∧
    r.pageRevision ≤ maxExecutorSequence ∧ r.evaluatedAt ≤ r.createdAt
  decCheck r := by infer_instance

structure TaskTargetExclusion where
  targetId : TargetId
  taskId : TaskId
  installationId : InstallationId
  pageRevision : Nat
  excludedAt : Time
  deriving DecidableEq

instance : Schema TaskTargetExclusion where
  apart a b := a.targetId ≠ b.targetId
  symm h := Ne.symm h
  irrefl _ h := h rfl
  dec _ _ := inferInstanceAs (Decidable (_ ≠ _))
  check r := 1 ≤ r.pageRevision ∧ r.pageRevision ≤ maxExecutorSequence
  decCheck r := by infer_instance

structure TaskTargetConfirmation where
  taskId : TaskId
  installationId : InstallationId
  pageRevision : Nat
  selectionTaskRevision : Nat
  confirmedTaskRevision : Nat
  selectedTargetCount : Nat
  action : DouyinSearchExposureAction
  messageTemplate : Option String
  intentFingerprint : TaskTargetConfirmationIntent
  sourceMessageId : MessageId
  sourceIdempotencyKey : IdempotencyKey
  sourceFingerprint : SourceFingerprint
  confirmedAt : Time
  createdAt : Time
  deriving DecidableEq

instance : Schema TaskTargetConfirmation where
  apart a b := a.taskId ≠ b.taskId ∧
    ¬(a.installationId = b.installationId ∧ a.sourceMessageId = b.sourceMessageId) ∧
    ¬(a.installationId = b.installationId ∧ a.sourceIdempotencyKey = b.sourceIdempotencyKey)
  symm h := ⟨Ne.symm h.1, fun e => h.2.1 ⟨e.1.symm, e.2.symm⟩, fun e => h.2.2 ⟨e.1.symm, e.2.symm⟩⟩
  irrefl _ h := h.1 rfl
  dec _ _ := inferInstanceAs (Decidable (_ ∧ _ ∧ _))
  check r := 1 ≤ r.pageRevision ∧ r.pageRevision ≤ maxExecutorSequence ∧
    0 < r.selectionTaskRevision ∧ r.confirmedTaskRevision = r.selectionTaskRevision + 1 ∧
    1 ≤ r.selectedTargetCount ∧ r.selectedTargetCount ≤ maxTaskTargetLimit ∧
    (r.messageTemplate = none ↔ r.action = .browse) ∧ r.confirmedAt ≤ r.createdAt
  decCheck r := by infer_instance

structure ExecutionAttempt where
  id : ExecutionAttemptId
  taskId : TaskId
  installationId : InstallationId
  attemptNumber : Nat
  status : ExecutionAttemptStatus
  revision : Nat
  createdAt : Time
  updatedAt : Time
  startedAt : Option Time
  finishedAt : Option Time
  deriving DecidableEq

/-- One attempt number a task, and one attempt an installation that is not over. -/
instance : Schema ExecutionAttempt where
  apart a b := a.id ≠ b.id ∧ ¬(a.taskId = b.taskId ∧ a.attemptNumber = b.attemptNumber) ∧
    ¬(a.installationId = b.installationId ∧ a.status.isTerminal = false ∧
      b.status.isTerminal = false)
  symm h := ⟨Ne.symm h.1, fun e => h.2.1 ⟨e.1.symm, e.2.symm⟩,
    fun e => h.2.2 ⟨e.1.symm, e.2.2, e.2.1⟩⟩
  irrefl _ h := h.1 rfl
  dec _ _ := inferInstanceAs (Decidable (_ ∧ _ ∧ _))
  check r := 0 < r.attemptNumber ∧ 0 < r.revision ∧ r.createdAt ≤ r.updatedAt ∧
    (∀ t ∈ r.startedAt, r.createdAt ≤ t) ∧
    (∀ t ∈ r.finishedAt, r.startedAt.getD r.createdAt ≤ t) ∧
    (r.finishedAt.or r.startedAt).getD r.createdAt ≤ r.updatedAt ∧
    (r.status.isTerminal = true ↔ r.finishedAt ≠ none)
  decCheck r := by infer_instance

structure TaskAction where
  id : ActionId
  executionAttemptId : ExecutionAttemptId
  taskId : TaskId
  installationId : InstallationId
  ordinal : Nat
  status : ActionStatus
  outcome : ActionOutcome
  evidenceCode : Option ActionResultEvidence
  revision : Nat
  createdAt : Time
  updatedAt : Time
  finishedAt : Option Time
  deriving DecidableEq

/-- `ck_task_actions_result_coherence` and `ck_task_actions_evidence_coherence`. -/
def TaskAction.Coherent (r : TaskAction) : Prop :=
  match r.status, r.outcome with
  | .planned, .pending | .authorized, .pending | .prepared, .pending | .dispatched, .pending =>
    r.evidenceCode = none ∧ r.finishedAt = none
  | .verified, .succeeded | .verified, .failed | .cancelled, .cancelled
  | .outcomeUncertain, .outcomeUncertain =>
    r.evidenceCode.any r.outcome.admits = true ∧ r.finishedAt ≠ none
  | _, _ => False

instance (r : TaskAction) : Decidable r.Coherent := by
  unfold TaskAction.Coherent
  split <;> infer_instance

instance : Schema TaskAction where
  apart a b := a.id ≠ b.id ∧
    ¬(a.executionAttemptId = b.executionAttemptId ∧ a.ordinal = b.ordinal)
  symm h := ⟨Ne.symm h.1, fun e => h.2 ⟨e.1.symm, e.2.symm⟩⟩
  irrefl _ h := h.1 rfl
  dec _ _ := inferInstanceAs (Decidable (_ ∧ _))
  check r := 0 < r.ordinal ∧ 0 < r.revision ∧ r.createdAt ≤ r.updatedAt ∧
    (∀ t ∈ r.finishedAt, r.createdAt ≤ t ∧ t ≤ r.updatedAt) ∧ r.Coherent
  decCheck r := by infer_instance

/-- mirrors action_risk_authorizations.py:47-102 -/
structure ActionRiskAuthorization where
  actionId : ActionId
  targetId : TargetId
  executionAttemptId : ExecutionAttemptId
  taskId : TaskId
  installationId : InstallationId
  ordinal : Nat
  action : DouyinSearchExposureAction
  effectiveMinimumIntervalSeconds : Nat
  taskActionLimit : Nat
  dailyActionLimit : Nat
  consecutiveFailureThreshold : Nat
  taskCountAfter : Nat
  dailyCountAfter : Nat
  authorizedDay : Nat
  authorizedAt : Time
  createdAt : Time
  deriving DecidableEq

instance : Schema ActionRiskAuthorization where
  apart a b := a.actionId ≠ b.actionId ∧
    ¬(a.taskId = b.taskId ∧ a.action = b.action ∧ a.taskCountAfter = b.taskCountAfter) ∧
    ¬(a.installationId = b.installationId ∧ a.action = b.action ∧
      a.authorizedDay = b.authorizedDay ∧ a.dailyCountAfter = b.dailyCountAfter)
  symm h := ⟨Ne.symm h.1, fun e => h.2.1 ⟨e.1.symm, e.2.1.symm, e.2.2.symm⟩,
    fun e => h.2.2 ⟨e.1.symm, e.2.1.symm, e.2.2.1.symm, e.2.2.2.symm⟩⟩
  irrefl _ h := h.1 rfl
  dec _ _ := inferInstanceAs (Decidable (_ ∧ _ ∧ _))
  check r := 1 ≤ r.effectiveMinimumIntervalSeconds ∧
    r.effectiveMinimumIntervalSeconds ≤ maxTaskIntervalSeconds ∧
    1 ≤ r.taskActionLimit ∧ r.taskActionLimit ≤ maxTaskTargetLimit ∧
    1 ≤ r.dailyActionLimit ∧ r.dailyActionLimit ≤ maxActionRiskLimit ∧
    1 ≤ r.consecutiveFailureThreshold ∧ r.consecutiveFailureThreshold ≤ maxActionRiskLimit ∧
    1 ≤ r.taskCountAfter ∧ r.taskCountAfter ≤ r.taskActionLimit ∧
    1 ≤ r.dailyCountAfter ∧ r.dailyCountAfter ≤ r.dailyActionLimit ∧
    r.authorizedDay = utcDay r.authorizedAt ∧ r.authorizedAt ≤ r.createdAt
  decCheck r := by infer_instance

structure ActionRiskResult where
  actionId : ActionId
  installationId : InstallationId
  action : DouyinSearchExposureAction
  outcome : ActionOutcome
  consecutiveFailuresAfter : Nat
  consecutiveFailureThreshold : Nat
  circuitOpenAfter : Bool
  triggeredHandoff : Bool
  observedAt : Time
  createdAt : Time
  deriving DecidableEq

instance : Schema ActionRiskResult where
  apart a b := a.actionId ≠ b.actionId
  symm h := Ne.symm h
  irrefl _ h := h rfl
  dec _ _ := inferInstanceAs (Decidable (_ ≠ _))
  check r := (r.outcome = .succeeded ∨ r.outcome = .failed) ∧
    r.consecutiveFailuresAfter ≤ maxActionRiskLimit ∧
    1 ≤ r.consecutiveFailureThreshold ∧ r.consecutiveFailureThreshold ≤ maxActionRiskLimit ∧
    (r.outcome = .failed ∧ 0 < r.consecutiveFailuresAfter ∨
      r.outcome = .succeeded ∧ (r.consecutiveFailuresAfter = 0 ∨ r.circuitOpenAfter = true)) ∧
    (r.triggeredHandoff = true → r.outcome = .failed ∧ r.circuitOpenAfter = true ∧
      r.consecutiveFailureThreshold ≤ r.consecutiveFailuresAfter) ∧
    r.observedAt ≤ r.createdAt
  decCheck r := by infer_instance

structure ActionFailureCircuit where
  installationId : InstallationId
  action : DouyinSearchExposureAction
  consecutiveFailures : Nat
  circuitOpen : Bool
  revision : Nat
  lastActionId : ActionId
  openedByActionId : Option ActionId
  openedAt : Option Time
  createdAt : Time
  updatedAt : Time
  deriving DecidableEq

instance : Schema ActionFailureCircuit where
  apart a b := ¬(a.installationId = b.installationId ∧ a.action = b.action)
  symm h := fun e => h ⟨e.1.symm, e.2.symm⟩
  irrefl _ h := h ⟨rfl, rfl⟩
  dec _ _ := inferInstanceAs (Decidable (¬_))
  check r := r.consecutiveFailures ≤ maxActionRiskLimit ∧ 0 < r.revision ∧
    (r.circuitOpen = true ∧ 0 < r.consecutiveFailures ∧ r.openedByActionId ≠ none ∧
        r.openedAt ≠ none ∨
      r.circuitOpen = false ∧ r.openedByActionId = none ∧ r.openedAt = none) ∧
    r.createdAt ≤ r.updatedAt ∧ ∀ t ∈ r.openedAt, r.createdAt ≤ t ∧ t ≤ r.updatedAt
  decCheck r := by infer_instance

structure TaskEvent where
  taskId : TaskId
  installationId : InstallationId
  sequence : Nat
  eventType : TaskEventType
  taskRevision : Nat
  taskStatus : TaskStatus
  executionAttemptId : Option ExecutionAttemptId
  actionId : Option ActionId
  sourceMessageId : Option MessageId
  sourceIdempotencyKey : IdempotencyKey
  sourceFingerprint : SourceFingerprint
  progressPercent : Option Nat
  occurredAt : Time
  recordedAt : Time
  deriving DecidableEq

instance : Schema TaskEvent where
  apart a b := ¬(a.taskId = b.taskId ∧ a.sequence = b.sequence) ∧
    ¬(a.installationId = b.installationId ∧ a.sourceMessageId ≠ none ∧
      a.sourceMessageId = b.sourceMessageId) ∧
    ¬(a.installationId = b.installationId ∧ a.sourceIdempotencyKey = b.sourceIdempotencyKey)
  symm h := ⟨fun e => h.1 ⟨e.1.symm, e.2.symm⟩,
    fun e => h.2.1 ⟨e.1.symm, e.2.2 ▸ e.2.1, e.2.2.symm⟩,
    fun e => h.2.2 ⟨e.1.symm, e.2.symm⟩⟩
  irrefl _ h := h.1 ⟨rfl, rfl⟩
  dec _ _ := inferInstanceAs (Decidable (¬_ ∧ ¬_ ∧ ¬_))
  check r := 1 ≤ r.sequence ∧ r.sequence ≤ maxTaskEventSequence ∧ 0 < r.taskRevision ∧
    (∀ p ∈ r.progressPercent, r.eventType = .stepProgress ∧ p ≤ 100) ∧
    (r.actionId ≠ none → r.executionAttemptId ≠ none) ∧ r.occurredAt ≤ r.recordedAt
  decCheck r := by infer_instance

structure TaskCommand where
  messageId : MessageId
  correlationId : CorrelationId
  installationId : InstallationId
  taskId : TaskId
  executionAttemptId : ExecutionAttemptId
  sequence : Nat
  commandType : TaskCommandType
  targetConfirmationMessageId : Option MessageId
  actionId : Option ActionId
  taskEventSequenceBaseline : Option Nat
  status : TaskCommandStatus
  idempotencyKey : IdempotencyKey
  revision : Nat
  deliveryAttempts : Nat
  nextDeliveryAt : Option Time
  leaseExpiresAt : Option Time
  deliveredAt : Option Time
  acknowledgedAt : Option Time
  responseMessageId : Option MessageId
  responseType : Option TaskCommandResponseType
  deadlineAt : Time
  createdAt : Time
  updatedAt : Time
  deriving DecidableEq

namespace TaskCommand

/-- `ck_task_commands_time_order`. -/
def TimeOrder (r : TaskCommand) : Prop :=
  r.createdAt < r.deadlineAt ∧ r.createdAt ≤ r.updatedAt ∧
    (∀ t ∈ r.nextDeliveryAt, r.createdAt ≤ t ∧ t < r.deadlineAt) ∧
    (∀ t ∈ r.leaseExpiresAt, r.updatedAt < t ∧ t ≤ r.deadlineAt) ∧
    (∀ t ∈ r.deliveredAt, r.createdAt ≤ t ∧ t ≤ r.deadlineAt) ∧
    ∀ t ∈ r.acknowledgedAt, (∃ d ∈ r.deliveredAt, d ≤ t) ∧ t ≤ r.deadlineAt

def Unanswered (r : TaskCommand) : Prop :=
  r.acknowledgedAt = none ∧ r.responseMessageId = none ∧ r.responseType = none

def Answered (r : TaskCommand) (types : List TaskCommandResponseType) : Prop :=
  0 < r.deliveryAttempts ∧ r.nextDeliveryAt = none ∧ r.leaseExpiresAt = none ∧
    r.deliveredAt ≠ none ∧ r.acknowledgedAt ≠ none ∧ r.responseMessageId ≠ none ∧
    ∃ t ∈ r.responseType, t ∈ types

/-- `ck_task_commands_status_coherence`. -/
def StatusCoherent (r : TaskCommand) : Prop :=
  match r.status with
  | .pending =>
    r.nextDeliveryAt ≠ none ∧ r.leaseExpiresAt = none ∧ r.deliveredAt = none ∧ r.Unanswered
  | .inFlight => 0 < r.deliveryAttempts ∧ r.nextDeliveryAt = none ∧ r.leaseExpiresAt ≠ none ∧
    r.deliveredAt = none ∧ r.Unanswered
  | .delivered => 0 < r.deliveryAttempts ∧ r.nextDeliveryAt = none ∧ r.leaseExpiresAt = none ∧
    r.deliveredAt ≠ none ∧ r.Unanswered
  | .acknowledged => r.Answered [.taskAccept, .taskControlAck, .actionAccept]
  | .rejected => r.Answered [.taskReject, .actionReject]
  | .expired => r.nextDeliveryAt = none ∧ r.leaseExpiresAt = none ∧ r.Unanswered ∧
    (r.deliveredAt ≠ none → 0 < r.deliveryAttempts)

/-- `_response_matches_command`.
mirrors task_command_repository.py:143-156 -/
def responseMatches : TaskCommandType → TaskCommandResponseType → Bool
  | .taskOffer, t | .taskDiscover, t => t == .taskAccept || t == .taskReject
  | .actionExecute, t => t == .actionAccept || t == .actionReject
  | _, t => t == .taskControlAck

/-- The `CHECK`s on which columns go with which command type. -/
def Scoped (r : TaskCommand) : Prop :=
  (r.targetConfirmationMessageId ≠ none →
      r.commandType = .taskOffer ∨ r.commandType = .actionExecute) ∧
    (if r.commandType = .actionExecute then
      r.actionId ≠ none ∧ r.targetConfirmationMessageId ≠ none else r.actionId = none) ∧
    if r.commandType = .taskOffer then
      r.taskEventSequenceBaseline.any (· < maxTaskEventSequence) = true
    else r.taskEventSequenceBaseline = none

instance (r : TaskCommand) : Decidable r.TimeOrder := by unfold TimeOrder; infer_instance

instance (r : TaskCommand) : Decidable r.Unanswered := by unfold Unanswered; infer_instance

instance (r : TaskCommand) (ts : List TaskCommandResponseType) : Decidable (r.Answered ts) := by
  unfold Answered; infer_instance

instance (r : TaskCommand) : Decidable r.StatusCoherent := by
  unfold StatusCoherent
  split <;> infer_instance

instance (r : TaskCommand) : Decidable r.Scoped := by unfold Scoped; infer_instance

end TaskCommand

instance : Schema TaskCommand where
  apart a b := a.messageId ≠ b.messageId ∧
    ¬(a.executionAttemptId = b.executionAttemptId ∧ a.sequence = b.sequence) ∧
    ¬(a.installationId = b.installationId ∧ a.idempotencyKey = b.idempotencyKey) ∧
    ¬(a.installationId = b.installationId ∧ a.responseMessageId ≠ none ∧
      a.responseMessageId = b.responseMessageId) ∧
    ¬(a.actionId ≠ none ∧ a.actionId = b.actionId)
  symm h := ⟨Ne.symm h.1, fun e => h.2.1 ⟨e.1.symm, e.2.symm⟩,
    fun e => h.2.2.1 ⟨e.1.symm, e.2.symm⟩,
    fun e => h.2.2.2.1 ⟨e.1.symm, e.2.2 ▸ e.2.1, e.2.2.symm⟩,
    fun e => h.2.2.2.2 ⟨e.2 ▸ e.1, e.2.symm⟩⟩
  irrefl _ h := h.1 rfl
  dec _ _ := inferInstanceAs (Decidable (_ ∧ _ ∧ _ ∧ _ ∧ _))
  check r := 1 ≤ r.sequence ∧ r.sequence ≤ maxTaskEventSequence ∧ 0 < r.revision ∧ r.TimeOrder ∧
    r.StatusCoherent ∧ (∀ t ∈ r.responseType, TaskCommand.responseMatches r.commandType t = true) ∧
    r.Scoped
  decCheck r := by infer_instance

/-! ## All the tables -/

structure Db where
  installations : Relation Installation
  platformSessionHealth : Relation PlatformSessionHealth
  platformSessionGates : Relation PlatformSessionGate
  tasks : Relation Task
  definitions : Relation Definition
  taskTargets : Relation TaskTarget
  taskTargetExclusions : Relation TaskTargetExclusion
  taskTargetConfirmations : Relation TaskTargetConfirmation
  executionAttempts : Relation ExecutionAttempt
  taskActions : Relation TaskAction
  actionRiskAuthorizations : Relation ActionRiskAuthorization
  actionRiskResults : Relation ActionRiskResult
  actionFailureCircuits : Relation ActionFailureCircuit
  taskEvents : Relation TaskEvent
  taskCommands : Relation TaskCommand

namespace Db

def empty : Db where
  installations := .empty
  platformSessionHealth := .empty
  platformSessionGates := .empty
  tasks := .empty
  definitions := .empty
  taskTargets := .empty
  taskTargetExclusions := .empty
  taskTargetConfirmations := .empty
  executionAttempts := .empty
  taskActions := .empty
  actionRiskAuthorizations := .empty
  actionRiskResults := .empty
  actionFailureCircuits := .empty
  taskEvents := .empty
  taskCommands := .empty

/-! ## Lookups -/

def active (db : Db) (i : InstallationId) : Prop :=
  ∃ r ∈ db.installations.rows, r.id = i ∧ r.status = .active

/-- The platform session is being logged out. -/
def gated (db : Db) (i : InstallationId) : Prop :=
  ∃ g ∈ db.platformSessionGates.rows, g.installationId = i

def healthy (db : Db) (i : InstallationId) : Prop :=
  ∃ h ∈ db.platformSessionHealth.rows, h.installationId = i ∧ h.state = .healthy

instance (db : Db) (i : InstallationId) : Decidable (db.active i) := by
  unfold active; infer_instance

instance (db : Db) (i : InstallationId) : Decidable (db.gated i) := by
  unfold gated; infer_instance

instance (db : Db) (i : InstallationId) : Decidable (db.healthy i) := by
  unfold healthy; infer_instance

def task? (db : Db) (t : TaskId) (i : InstallationId) : Option Task :=
  db.tasks.find? fun r => r.id = t ∧ r.installationId = i

def definition? (db : Db) (t : TaskId) (i : InstallationId) : Option Definition :=
  db.definitions.find? fun r => r.taskId = t ∧ r.installationId = i

def confirmation? (db : Db) (t : TaskId) (i : InstallationId) : Option TaskTargetConfirmation :=
  db.taskTargetConfirmations.find? fun r => r.taskId = t ∧ r.installationId = i

def attempt? (db : Db) (e : ExecutionAttemptId) (t : TaskId) (i : InstallationId) :
    Option ExecutionAttempt :=
  db.executionAttempts.find? fun r => r.id = e ∧ r.taskId = t ∧ r.installationId = i

def commandByKey? (db : Db) (i : InstallationId) (k : IdempotencyKey) : Option TaskCommand :=
  db.taskCommands.find? fun r => r.installationId = i ∧ r.idempotencyKey = k

def eventByKey? (db : Db) (i : InstallationId) (k : IdempotencyKey) : Option TaskEvent :=
  db.taskEvents.find? fun r => r.installationId = i ∧ r.sourceIdempotencyKey = k

def eventByMessage? (db : Db) (i : InstallationId) (m : MessageId) : Option TaskEvent :=
  db.taskEvents.find? fun r => r.installationId = i ∧ r.sourceMessageId = some m

variable {db : Db}

theorem task?_eq_some {t : TaskId} {i : InstallationId} {r : Task} :
    db.task? t i = some r ↔ r ∈ db.tasks ∧ r.id = t ∧ r.installationId = i :=
  Relation.find?_key_iff fun _ _ ha hb hab => hab.1 (ha.1.trans hb.1.symm)

theorem definition?_eq_some {t : TaskId} {i : InstallationId} {r : Definition} :
    db.definition? t i = some r ↔ r ∈ db.definitions ∧ r.taskId = t ∧ r.installationId = i :=
  Relation.find?_key_iff fun _ _ ha hb hab => hab (ha.1.trans hb.1.symm)

theorem confirmation?_eq_some {t : TaskId} {i : InstallationId} {r : TaskTargetConfirmation} :
    db.confirmation? t i = some r ↔
      r ∈ db.taskTargetConfirmations ∧ r.taskId = t ∧ r.installationId = i :=
  Relation.find?_key_iff fun _ _ ha hb hab => hab.1 (ha.1.trans hb.1.symm)

theorem attempt?_eq_some {e : ExecutionAttemptId} {t : TaskId} {i : InstallationId}
    {r : ExecutionAttempt} :
    db.attempt? e t i = some r ↔
      r ∈ db.executionAttempts ∧ r.id = e ∧ r.taskId = t ∧ r.installationId = i :=
  Relation.find?_key_iff fun _ _ ha hb hab => hab.1 (ha.1.trans hb.1.symm)

theorem eventByKey?_eq_some {i : InstallationId} {k : IdempotencyKey} {r : TaskEvent} :
    db.eventByKey? i k = some r ↔
      r ∈ db.taskEvents ∧ r.installationId = i ∧ r.sourceIdempotencyKey = k :=
  Relation.find?_key_iff fun _ _ ha hb hab => hab.2.2 ⟨ha.1.trans hb.1.symm, ha.2.trans hb.2.symm⟩

theorem eventByMessage?_eq_some {i : InstallationId} {m : MessageId} {r : TaskEvent} :
    db.eventByMessage? i m = some r ↔
      r ∈ db.taskEvents ∧ r.installationId = i ∧ r.sourceMessageId = some m :=
  Relation.find?_key_iff fun _ _ ha hb hab =>
    hab.2.1 ⟨ha.1.trans hb.1.symm, by simp [ha.2], ha.2.trans hb.2.symm⟩

end Db
end AutomationTool.ControlPlane
