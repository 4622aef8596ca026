import AutomationTool.ControlPlane.RiskAuthorization
import AutomationTool.ControlPlane.TaskDiscovery

/-!
# Progression of an installation's confirmed actions

The two transactions of `SqlAlchemyActionExecutionOrchestrationRepository.advance` around
the authorization: `prepare` decides what comes next and does it unless it is a new
authorization, `enqueueAuthorized` sends the command of an authorized action. An
integrity error makes `advance` unavailable.
mirrors control_plane/infrastructure/database/action_execution_orchestration_repository.py
-/
namespace AutomationTool.ControlPlane

open Protocol

/-- mirrors action_execution_orchestration.py:33-38 -/
inductive ActionExecutionAdvanceKind where
  | idle | taskOffered | actionEnqueued | taskFinalized | rateLimited
  deriving DecidableEq, Repr

inductive ActionExecutionAdvanceError where
  | rejected | unavailable
  deriving DecidableEq, Repr

/-- mirrors action_execution_orchestration.py:41-62 -/
@[ext] structure ActionExecutionLimits where
  minimumIntervalSeconds : Nat
  taskActionLimit : Nat
  dailyActionLimit : Nat
  consecutiveFailureThreshold : Nat
  interval_mem : 1 ≤ minimumIntervalSeconds ∧ minimumIntervalSeconds ≤ maxTaskIntervalSeconds :=
    by decide
  task_mem : 1 ≤ taskActionLimit ∧ taskActionLimit ≤ maxTaskTargetLimit := by decide
  daily_mem : 1 ≤ dailyActionLimit ∧ dailyActionLimit ≤ maxActionRiskLimit := by decide
  threshold_mem : 1 ≤ consecutiveFailureThreshold ∧
    consecutiveFailureThreshold ≤ maxActionRiskLimit := by decide

instance : DecidableEq ActionExecutionLimits := fun _ _ => decidable_of_iff' _ ActionExecutionLimits.ext_iff

/-- mirrors action_execution_orchestration.py:65-104 -/
@[ext] structure PendingActionExecutionAdvance where
  installationId : InstallationId
  executorId : ExecutorId
  executionAttemptId : ExecutionAttemptId
  actionId : ActionId
  messageId : MessageId
  correlationId : CorrelationId
  limits : ActionExecutionLimits
  requestedAt : Time
  commandDeadlineAt : Time
  deadline_later : requestedAt < commandDeadlineAt := by decide
  deadline_le : commandDeadlineAt ≤ requestedAt + actionAuthorizationMaxLifetime := by decide

instance : DecidableEq PendingActionExecutionAdvance := fun _ _ => decidable_of_iff' _ PendingActionExecutionAdvance.ext_iff

/-- `_NextAuthorization`. -/
structure NextAuthorization where
  taskId : TaskId
  attemptId : ExecutionAttemptId
  targetId : TargetId
  action : DouyinSearchExposureAction
  deriving DecidableEq

/-- What `_prepare` returns. -/
inductive Prepared where
  | done (kind : ActionExecutionAdvanceKind)
  | next (authorization : NextAuthorization)
  deriving DecidableEq

namespace ActionExecutionOrchestrationRepository

open TaskEventConvergenceRepository TaskTargetPreviewRepository TaskTargetRepository
  TaskDiscoveryRepository TaskCommandRepository

/-- A transaction of `advance`. -/
abbrev Transaction (α : Type) := Except ActionExecutionAdvanceError (α × Db)

/-- The end of a transaction that fails only on an integrity error. -/
def commit {α : Type} (a : α) : Option Db → Transaction α
  | some db' => .ok (a, db')
  | none => .error .unavailable

/-! ## Sending the command of an authorized action -/

/-- The action has its command. -/
def commanded (db : Db) (a : ActionId) : Prop := ∃ c ∈ db.taskCommands.rows, c.actionId = some a

instance (db : Db) (a : ActionId) : Decidable (commanded db a) := by unfold commanded; infer_instance

/-- The authorization, joined with its task, its attempt and its confirmation. -/
def authorized? (db : Db) (i : InstallationId) (a : ActionId) :
    Option (ActionRiskAuthorization × Task × ExecutionAttempt × TaskTargetConfirmation) := do
  let authorization ← db.actionRiskAuthorizations.find? fun r =>
    r.actionId = a ∧ r.installationId = i
  let task ← db.task? authorization.taskId i
  let attempt ← db.executionAttempts.find? fun e => e.id = authorization.executionAttemptId
  let confirmation ← db.confirmation? authorization.taskId i
  return (authorization, task, attempt, confirmation)

/-- The deadline of an action's command. -/
def actionDeadline (pending : PendingActionExecutionAdvance)
    (authorization : ActionRiskAuthorization) : Time :=
  min pending.commandDeadlineAt (authorization.authorizedAt + actionAuthorizationMaxLifetime)

def actionCommand (pending : PendingActionExecutionAdvance) (db : Db)
    (authorization : ActionRiskAuthorization) (confirmation : TaskTargetConfirmation) :
    TaskCommand :=
  newCommand pending.messageId pending.correlationId pending.installationId authorization.taskId
    authorization.executionAttemptId (lastSequence db authorization.executionAttemptId + 1)
    .actionExecute (some confirmation.sourceMessageId) (some authorization.actionId) none
    (.action authorization.actionId) pending.requestedAt (actionDeadline pending authorization)

/-- `_enqueue_authorized_locked`. mirrors action_execution_orchestration_repository.py:583-684 -/
def enqueueAuthorizedLocked (pending : PendingActionExecutionAdvance) (a : ActionId) (db : Db) :
    Transaction ActionExecutionAdvanceKind :=
  if commanded db a then .ok (.actionEnqueued, db)
  else
    match authorized? db pending.installationId a with
    | none => .error .rejected
    | some (authorization, task, attempt, confirmation) =>
      if task.status = .running ∧ attempt.status = .running ∧
          task.currentAttemptId = some authorization.executionAttemptId ∧
          pending.requestedAt < actionDeadline pending authorization then
        commit .actionEnqueued
          (db.insertCommand (actionCommand pending db authorization confirmation))
      else .error .rejected

/-- `_enqueue_authorized`. mirrors action_execution_orchestration_repository.py:563-581 -/
def enqueueAuthorized (pending : PendingActionExecutionAdvance) (a : ActionId) (db : Db) :
    Transaction ActionExecutionAdvanceKind :=
  if db.active pending.installationId then enqueueAuthorizedLocked pending a db
  else .error .rejected

/-! ## Offering the next confirmed task -/

/-- The task waits for an attempt, as it was confirmed. -/
def offerable (db : Db) (i : InstallationId) (skipped : TaskId → Bool) (task : Task) : Bool :=
  task.installationId = i ∧ task.status = .queued ∧ task.currentAttemptId = none ∧
    skipped task.id = false ∧
    ∃ c ∈ db.confirmation? task.id i, ∃ d ∈ db.definition? task.id i,
      task.revision = c.confirmedTaskRevision ∧ 0 < c.selectedTargetCount ∧ agrees c d

/-- `ORDER BY updated_at, id`. -/
def taskOrder (task : Task) : Time ×ₗ TaskId := toLex (task.updatedAt, task.id)

def offerCommand (pending : PendingActionExecutionAdvance) (task : Task)
    (confirmation : TaskTargetConfirmation) : TaskCommand :=
  newCommand pending.messageId pending.correlationId pending.installationId task.id
    pending.executionAttemptId 1 .taskOffer (some confirmation.sourceMessageId) none
    (some task.lastEventSequence) (.taskOffer pending.executionAttemptId) pending.requestedAt
    pending.commandDeadlineAt

/-- The part of an offer that writes. -/
def offer (pending : PendingActionExecutionAdvance) (task : Task)
    (confirmation : TaskTargetConfirmation) (db : Db) : Option Db := do
  let number := lastAttemptNumber db task.id pending.installationId + 1
  let executionAttempts ← db.executionAttempts.insert? (offeredAttempt pending.executionAttemptId
    task.id pending.installationId number pending.requestedAt)
  let inserted ← { db with executionAttempts }.insertCommand
    (offerCommand pending task confirmation)
  let tasks ← inserted.tasks.replace? task
    { task with
      currentAttemptId := some pending.executionAttemptId
      updatedAt := pending.requestedAt }
  return { inserted with tasks }

/-- `_offer_next_confirmed_locked`; `skipped` are the task rows another transaction
holds. mirrors action_execution_orchestration_repository.py:457-561 -/
def offerNextConfirmedLocked (pending : PendingActionExecutionAdvance) (skipped : TaskId → Bool)
    (db : Db) : Transaction Prepared :=
  match db.tasks.least? (offerable db pending.installationId skipped) taskOrder with
  | none => .ok (.done .idle, db)
  | some task =>
    match db.confirmation? task.id pending.installationId with
    | none => .ok (.done .idle, db)
    | some confirmation => commit (.done .taskOffered) (offer pending task confirmation db)

/-! ## Finishing a task -/

/-- The actions of an attempt. -/
def actionsOf (db : Db) (e : ExecutionAttemptId) : List TaskAction :=
  db.taskActions.rows.filter fun a => a.executionAttemptId = e

/-- What the outcomes of all actions make of the task, of its attempt, and of the
timeline. mirrors action_execution_orchestration_repository.py:369-386 -/
def finalPlan (outcomes : List ActionOutcome) :
    TaskStatus × ExecutionAttemptStatus × TaskEventType :=
  if .outcomeUncertain ∈ outcomes then
    (.outcomeUncertain, .outcomeUncertain, .taskOutcomeUncertain)
  else if outcomes.count .succeeded = outcomes.length then (.succeeded, .succeeded, .taskCompleted)
  else if 0 < outcomes.count .succeeded then
    (.partiallySucceeded, .partiallySucceeded, .taskPartiallyCompleted)
  else (.failed, .failed, .taskFailed)

def finalEvent (pending : PendingActionExecutionAdvance) (task : Task)
    (attempt : ExecutionAttempt) (plan : TaskStatus × ExecutionAttemptStatus × TaskEventType) :
    TaskEvent where
  taskId := task.id
  installationId := pending.installationId
  sequence := task.lastEventSequence + 1
  eventType := plan.2.2
  taskRevision := task.revision + 1
  taskStatus := plan.1
  executionAttemptId := some attempt.id
  actionId := none
  sourceMessageId := none
  sourceIdempotencyKey := .taskActionFinalize attempt.id
  sourceFingerprint := .actionFinalized pending.installationId task.id attempt.id
    (task.lastEventSequence + 1) plan.1
  progressPercent := none
  occurredAt := pending.requestedAt
  recordedAt := pending.requestedAt

def finalAttempt (pending : PendingActionExecutionAdvance) (attempt : ExecutionAttempt)
    (status : ExecutionAttemptStatus) : ExecutionAttempt :=
  { attempt with
    status := status
    revision := attempt.revision + 1
    finishedAt := some pending.requestedAt
    updatedAt := pending.requestedAt }

def finalTask (pending : PendingActionExecutionAdvance) (task : Task) (status : TaskStatus) :
    Task :=
  { task with
    status := status
    revision := task.revision + 1
    lastEventSequence := task.lastEventSequence + 1
    updatedAt := pending.requestedAt }

/-- The part of a finalization that writes. -/
def finish (pending : PendingActionExecutionAdvance) (task : Task) (attempt : ExecutionAttempt)
    (plan : TaskStatus × ExecutionAttemptStatus × TaskEventType) (db : Db) : Option Db := do
  let taskEvents ← db.taskEvents.insert? (finalEvent pending task attempt plan)
  let executionAttempts ← db.executionAttempts.replace? attempt
    (finalAttempt pending attempt plan.2.1)
  let tasks ← db.tasks.replace? task (finalTask pending task plan.1)
  return { db with taskEvents, executionAttempts, tasks }

/-- `_finalize_completed_task_locked`.
mirrors action_execution_orchestration_repository.py:332-455 -/
def finalizeCompletedTaskLocked (pending : PendingActionExecutionAdvance) (task : Task)
    (attempt : ExecutionAttempt) (selectedTargetCount : Nat) (db : Db) : Transaction Prepared :=
  let actions := (actionsOf db attempt.id).filter fun a =>
    a.taskId = task.id ∧ a.installationId = pending.installationId
  let plan := finalPlan (actions.map TaskAction.outcome)
  if selectedTargetCount = 0 then .error .rejected
  else if actions.length ≠ selectedTargetCount ∨
      ∃ a ∈ actions, a.status.isTerminal = false then .ok (.done .idle, db)
  else if TaskStateMachine.canTransition .running plan.1 = true ∧
      task.lastEventSequence < maxTaskEventSequence then
    commit (.done .taskFinalized) (finish pending task attempt plan db)
  else .error .rejected

/-! ## Preparing -/

/-- The authorized action that never got its command. -/
def uncommanded (db : Db) (i : InstallationId) (r : ActionRiskAuthorization) : Bool :=
  r.installationId = i ∧
    (∃ a ∈ db.taskActions.rows, a.id = r.actionId ∧ a.status = .authorized) ∧
    ¬commanded db r.actionId

/-- `ORDER BY authorized_at, action_id`. -/
def authorizationOrder (r : ActionRiskAuthorization) : Time ×ₗ ActionId :=
  toLex (r.authorizedAt, r.actionId)

def uncommanded? (db : Db) (i : InstallationId) : Option ActionRiskAuthorization :=
  db.actionRiskAuthorizations.least? (uncommanded db i) authorizationOrder

/-- The installation's attempt that is not over. -/
def activeAttempt? (db : Db) (i : InstallationId) : Option ExecutionAttempt :=
  db.executionAttempts.find? fun a => a.installationId = i ∧ a.status.isTerminal = false

/-- The target was authorized before. -/
def isAuthorized (db : Db) (r : TaskTarget) : Prop :=
  ∃ a ∈ db.actionRiskAuthorizations.rows, a.targetId = r.id ∧ a.taskId = r.taskId ∧
    a.installationId = r.installationId

instance (db : Db) (r : TaskTarget) : Decidable (isAuthorized db r) := by
  unfold isAuthorized; infer_instance

/-- The first target of the confirmed page that is selected and not authorized. -/
def nextTarget? (db : Db) (t : TaskId) (i : InstallationId) (pageRevision : Nat) :
    Option TaskTarget :=
  db.taskTargets.least? (fun r => r.taskId = t ∧ r.installationId = i ∧
    r.pageRevision = pageRevision ∧ r.disposition = .eligible ∧ ¬excluded db r ∧
    ¬isAuthorized db r) fun r => toLex (r.ordinal, r.id)

/-- The running task's next step: authorize a target, or finish.
mirrors action_execution_orchestration_repository.py:214-330 -/
def prepareRunning (pending : PendingActionExecutionAdvance) (attempt : ExecutionAttempt)
    (db : Db) : Transaction Prepared :=
  match db.task? attempt.taskId pending.installationId with
  | none => .ok (.done .idle, db)
  | some task =>
    if task.status = .running ∧ task.currentAttemptId = some attempt.id ∧
        ∀ a ∈ actionsOf db attempt.id, a.status.isTerminal = true then
      match db.definition? task.id pending.installationId,
          db.confirmation? task.id pending.installationId with
      | some definition, some confirmation =>
        match nextTarget? db task.id pending.installationId confirmation.pageRevision with
        | some target => .ok (.next ⟨task.id, attempt.id, target.id, definition.action⟩, db)
        | none => finalizeCompletedTaskLocked pending task attempt
            confirmation.selectedTargetCount db
      | _, _ => .ok (.done .idle, db)
    else .ok (.done .idle, db)

/-- `_prepare`. mirrors action_execution_orchestration_repository.py:140-330 -/
def prepare (pending : PendingActionExecutionAdvance) (skipped : TaskId → Bool) (db : Db) :
    Transaction Prepared :=
  if db.active pending.installationId ∧ ¬db.gated pending.installationId ∧
      db.healthy pending.installationId then
    match uncommanded? db pending.installationId with
    | some r =>
      match enqueueAuthorizedLocked pending r.actionId db with
      | .ok (kind, db') => .ok (.done kind, db')
      | .error e => .error e
    | none =>
      match activeAttempt? db pending.installationId with
      | none => offerNextConfirmedLocked pending skipped db
      | some attempt =>
        if attempt.status = .running then prepareRunning pending attempt db
        else .ok (.done .idle, db)
  else .ok (.done .idle, db)

/-- The request `advance` makes for the next target. -/
def authorizationRequest (pending : PendingActionExecutionAdvance) (next : NextAuthorization) :
    AuthorizationRequest where
  actionId := pending.actionId
  targetId := next.targetId
  executionAttemptId := next.attemptId
  taskId := next.taskId
  installationId := pending.installationId
  policy :=
    { scope := ⟨pending.installationId, next.action⟩
      minimumIntervalSeconds := pending.limits.minimumIntervalSeconds
      taskActionLimit := pending.limits.taskActionLimit
      dailyActionLimit := pending.limits.dailyActionLimit
      consecutiveFailureThreshold := pending.limits.consecutiveFailureThreshold
      interval_mem := pending.limits.interval_mem
      task_mem := pending.limits.task_mem
      daily_mem := pending.limits.daily_mem
      threshold_mem := pending.limits.threshold_mem }
  authorizedAt := pending.requestedAt

end ActionExecutionOrchestrationRepository
end AutomationTool.ControlPlane
