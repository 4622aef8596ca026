import AutomationTool.ControlPlane.TargetPreview
import AutomationTool.ControlPlane.TaskCommands

/-!
# Target discovery

The start of a discovery attempt by the user, and the convergence of the executor's
final discovery report: a completed discovery replaces the task's preview.
mirrors control_plane/infrastructure/database/task_discovery_repository.py
-/
namespace AutomationTool.ControlPlane

open Protocol

/-- mirrors application/task_discovery.py:65-107 -/
@[ext] structure PendingTaskDiscovery where
  messageId : MessageId
  correlationId : CorrelationId
  executionAttemptId : ExecutionAttemptId
  installationId : InstallationId
  taskId : TaskId
  idempotencyKey : IdempotencyKey
  createdAt : Time
  deadlineAt : Time
  deadline_later : createdAt < deadlineAt := by decide

instance : DecidableEq PendingTaskDiscovery := fun _ _ => decidable_of_iff' _ PendingTaskDiscovery.ext_iff

structure TaskDiscoveryStartResult where
  task : Task
  command : TaskCommand
  created : Bool
  deriving DecidableEq

structure TaskDiscoveryConvergenceResult where
  task : Task
  duplicate : Bool
  deriving DecidableEq

/-- Why a start was refused. -/
inductive TaskDiscoveryError where
  | rejected | installationBusy
  deriving DecidableEq, Repr

namespace TaskDiscoveryRepository

/-- `_STARTABLE_STATUSES`: `_require_discovery_reachable` lets exactly these pass. -/
def isStartable : TaskStatus → Bool
  | .draft | .awaitingPlatformLogin | .awaitingHuman | .awaitingConfirmation => true
  | _ => false

/-- The chain of moves `_require_discovery_reachable` checks, from a startable status. -/
def discoveryPath : TaskStatus → List TaskStatus
  | .draft => [.validating, .awaitingDevice, .awaitingPlatformLogin, .discoveringTargets]
  | _ => [.discoveringTargets]

/-- Every status is an allowed target of the one before. -/
def isPath (s : TaskStatus) : List TaskStatus → Bool
  | [] => true
  | t :: ts => TaskStateMachine.canTransition s t && isPath t ts

/-- `_require_discovery_reachable`. mirrors task_discovery_repository.py:86-101 -/
def discoveryReachable (s : TaskStatus) : Bool := isStartable s && isPath s (discoveryPath s)

theorem discoveryReachable_iff (s : TaskStatus) : discoveryReachable s = isStartable s := by
  cases s <;> rfl

/-- Some attempt of the installation is not over. -/
def busy (db : Db) (i : InstallationId) : Prop :=
  ∃ a ∈ db.executionAttempts.rows, a.installationId = i ∧ a.status.isTerminal = false

instance (db : Db) (i : InstallationId) : Decidable (busy db i) := by unfold busy; infer_instance

/-- The number of the task's last attempt. -/
def lastAttemptNumber (db : Db) (t : TaskId) (i : InstallationId) : Nat :=
  db.executionAttempts.maxOf (fun a => a.taskId = t ∧ a.installationId = i)
    ExecutionAttempt.attemptNumber

/-- A new attempt, offered to the executor. -/
def offeredAttempt (e : ExecutionAttemptId) (t : TaskId) (i : InstallationId) (number : Nat)
    (createdAt : Time) : ExecutionAttempt where
  id := e
  taskId := t
  installationId := i
  attemptNumber := number
  status := .offered
  revision := 1
  createdAt := createdAt
  updatedAt := createdAt
  startedAt := none
  finishedAt := none

def startCommand (pending : PendingTaskDiscovery) : TaskCommand :=
  newCommand pending.messageId pending.correlationId pending.installationId pending.taskId
    pending.executionAttemptId 1 .taskDiscover none none none pending.idempotencyKey
    pending.createdAt pending.deadlineAt

def startEvent (pending : PendingTaskDiscovery) (task : Task) : TaskEvent where
  taskId := pending.taskId
  installationId := pending.installationId
  sequence := task.lastEventSequence + 1
  eventType := .taskDiscoveryStarted
  taskRevision := task.revision + 1
  taskStatus := .discoveringTargets
  executionAttemptId := some pending.executionAttemptId
  actionId := none
  sourceMessageId := none
  sourceIdempotencyKey := .taskDiscoveryStart pending.executionAttemptId
  sourceFingerprint :=
    .discoveryStarted pending.installationId pending.taskId pending.executionAttemptId
  progressPercent := none
  occurredAt := pending.createdAt
  recordedAt := pending.createdAt

def startMove (pending : PendingTaskDiscovery) (task : Task) : Task :=
  { task with
    currentAttemptId := some pending.executionAttemptId
    status := .discoveringTargets
    revision := task.revision + 1
    lastEventSequence := task.lastEventSequence + 1
    updatedAt := pending.createdAt }

/-- The part of `start` that writes. -/
def begin (pending : PendingTaskDiscovery) (task : Task) (db : Db) : Option Db := do
  let number := lastAttemptNumber db pending.taskId pending.installationId + 1
  let executionAttempts ← db.executionAttempts.insert? (offeredAttempt pending.executionAttemptId
    pending.taskId pending.installationId number pending.createdAt)
  let inserted ← { db with executionAttempts }.insertCommand (startCommand pending)
  let taskEvents ← inserted.taskEvents.insert? (startEvent pending task)
  let tasks ← inserted.tasks.replace? task (startMove pending task)
  return { inserted with taskEvents, tasks }

/-- mirrors task_discovery_repository.py:117-288 -/
def start (pending : PendingTaskDiscovery) (db : Db) :
    Except TaskDiscoveryError (TaskDiscoveryStartResult × Db) :=
  if db.active pending.installationId ∧ ¬db.gated pending.installationId ∧
      db.healthy pending.installationId then
    match db.commandByKey? pending.installationId pending.idempotencyKey with
    | some command =>
      match db.task? pending.taskId pending.installationId with
      | some task =>
        if command.taskId = pending.taskId ∧ command.commandType = .taskDiscover then
          .ok (⟨task, command, false⟩, db)
        else .error .rejected
      | none => .error .rejected
    | none =>
      if busy db pending.installationId then .error .installationBusy
      else
        match db.task? pending.taskId pending.installationId with
        | none => .error .rejected
        | some task =>
          if task.updatedAt ≤ pending.createdAt ∧ discoveryReachable task.status = true ∧
              (db.definition? pending.taskId pending.installationId).isSome then
            match begin pending task db with
            | some db' => .ok (⟨startMove pending task, startCommand pending, true⟩, db')
            | none => .error .rejected
          else .error .rejected
  else .error .rejected

/-! ## The executor's report -/

/-- A `TaskDiscoveryCompletedEnvelope`. -/
structure DiscoveryReport where
  message : Outbound
  payload : DouyinDiscoveryCompletedPayload
  body_eq : message.body = .discoveryCompleted payload

/-- `_ACTIVE_DISCOVERY_ATTEMPT_STATUSES`. -/
def isActiveDiscovery : ExecutionAttemptStatus → Bool
  | .offered | .accepted | .running => true
  | _ => false

/-- The discovery command a message answers to, accepted by the executor. -/
def acceptedDiscovery (db : Db) (m : Outbound) : Prop :=
  ∃ c ∈ db.taskCommands.rows, c.executionAttemptId = m.executionAttemptId ∧
    c.taskId = m.taskId ∧ c.installationId = m.installationId ∧
    c.correlationId = m.correlationId ∧ c.commandType = .taskDiscover ∧
    c.status = .acknowledged ∧ c.responseType = some .taskAccept

instance (db : Db) (m : Outbound) : Decidable (acceptedDiscovery db m) := by
  unfold acceptedDiscovery; infer_instance

/-- `_require_active_attempt`. mirrors task_discovery_repository.py:543-606 -/
def requireActiveAttempt (m : Outbound) (pageRevision : Nat) (db : Db) :
    Option (Task × ExecutionAttempt) := do
  let task ← db.task? m.taskId m.installationId
  let attempt ← db.attempt? m.executionAttemptId m.taskId m.installationId
  guard (task.currentAttemptId = some m.executionAttemptId ∧
    task.status = .discoveringTargets ∧ isActiveDiscovery attempt.status = true ∧
    attempt.attemptNumber = pageRevision ∧ acceptedDiscovery db m)
  return (task, attempt)

/-- What an outcome makes of the task, of its attempt, and of the timeline. -/
def outcomePlan : DiscoveryOutcome → TaskStatus × ExecutionAttemptStatus × TaskEventType
  | .completed => (.awaitingConfirmation, .succeeded, .taskAwaitingConfirmation)
  | .loginRequired => (.awaitingPlatformLogin, .failed, .taskAwaitingPlatformLogin)
  | .handoffRequired => (.awaitingHuman, .failed, .taskAwaitingHuman)
  | .failed => (.failed, .failed, .taskFailed)

/-- `_require_final_replay`. mirrors task_discovery_repository.py:626-662 -/
def finalReplay (r : DiscoveryReport) (db : Db) : Prop :=
  (∃ task ∈ db.task? r.message.taskId r.message.installationId,
    task.currentAttemptId = some r.message.executionAttemptId ∧
    task.status = (outcomePlan r.payload.outcome).1) ∧
  (∃ attempt ∈ db.attempt? r.message.executionAttemptId r.message.taskId r.message.installationId,
    attempt.attemptNumber = r.payload.pageRevision ∧
    attempt.status = (outcomePlan r.payload.outcome).2.1) ∧
  acceptedDiscovery db r.message

instance (r : DiscoveryReport) (db : Db) : Decidable (finalReplay r db) := by
  unfold finalReplay; infer_instance

/-- `_candidates_match_persisted`. -/
def candidatesMatch (db : Db) (t : TaskId) (i : InstallationId)
    (candidates : List DouyinCandidate) : Prop :=
  ∃ first ∈ candidates.head?,
    (TaskTargetPreviewRepository.pageOf db t i first.pageRevision).map TaskTarget.candidate =
      candidates

instance (db : Db) (t : TaskId) (i : InstallationId) (cs : List DouyinCandidate) :
    Decidable (candidatesMatch db t i cs) := by unfold candidatesMatch; infer_instance

/-- A report of a completed discovery comes with its candidates, any other without. -/
def candidatesFit (r : DiscoveryReport) : Option (List DouyinCandidate) → Prop
  | some cs => r.payload.outcome = .completed ∧ cs ≠ [] ∧
      cs.length = r.payload.candidateCount ∧ ∀ c ∈ cs, c.pageRevision = r.payload.pageRevision
  | none => r.payload.outcome ≠ .completed

instance (r : DiscoveryReport) (cs : Option (List DouyinCandidate)) :
    Decidable (candidatesFit r cs) := by cases cs <;> unfold candidatesFit <;> infer_instance

/-- The candidates a repeated report comes with are the persisted ones. -/
def replayFits (db : Db) (r : DiscoveryReport) : Option (List DouyinCandidate) → Prop
  | some cs => r.payload.outcome = .completed ∧
      candidatesMatch db r.message.taskId r.message.installationId cs
  | none => r.payload.outcome ≠ .completed

instance (db : Db) (r : DiscoveryReport) (cs : Option (List DouyinCandidate)) :
    Decidable (replayFits db r cs) := by cases cs <;> unfold replayFits <;> infer_instance

def reportEvent (r : DiscoveryReport) (task : Task) (receivedAt : Time) : TaskEvent where
  taskId := r.message.taskId
  installationId := r.message.installationId
  sequence := task.lastEventSequence + 1
  eventType := (outcomePlan r.payload.outcome).2.2
  taskRevision := task.revision + 1
  taskStatus := (outcomePlan r.payload.outcome).1
  executionAttemptId := some r.message.executionAttemptId
  actionId := none
  sourceMessageId := some r.message.messageId
  sourceIdempotencyKey := r.message.idempotencyKey
  sourceFingerprint := .message (outboundIntent r.message)
  progressPercent := none
  occurredAt := r.message.sentAt
  recordedAt := receivedAt

def reportMove (r : DiscoveryReport) (task : Task) (receivedAt : Time) : Task :=
  { task with
    status := (outcomePlan r.payload.outcome).1
    revision := task.revision + 1
    lastEventSequence := task.lastEventSequence + 1
    updatedAt := receivedAt }

def reportAttempt (r : DiscoveryReport) (attempt : ExecutionAttempt) (receivedAt : Time) :
    ExecutionAttempt :=
  { attempt with
    status := (outcomePlan r.payload.outcome).2.1
    revision := attempt.revision + 1
    updatedAt := receivedAt
    finishedAt := some receivedAt }

/-- The event a report repeats: same message or same key. -/
def repeated (db : Db) (m : Outbound) : List TaskEvent :=
  db.taskEvents.rows.filter fun e => e.installationId = m.installationId ∧
    (e.sourceMessageId = some m.messageId ∨ e.sourceIdempotencyKey = m.idempotencyKey)

/-- The candidates of a completed discovery replace the task's preview. -/
def replacePreview (m : Outbound) (candidates : Option (List DouyinCandidate)) (receivedAt : Time)
    (ids : Nat → TargetId) (db : Db) : Option Db :=
  match candidates with
  | some cs =>
    TaskTargetRepository.evaluateAndReplace m.taskId m.installationId cs [] receivedAt ids db
  | none => some db

/-- The part of `converge` that writes; `ids` are the new target ids. -/
def record (r : DiscoveryReport) (candidates : Option (List DouyinCandidate)) (receivedAt : Time)
    (ids : Nat → TargetId) (task : Task) (attempt : ExecutionAttempt) (db : Db) : Option Db := do
  let replaced ← replacePreview r.message candidates receivedAt ids db
  guard (TaskStateMachine.canTransition task.status (outcomePlan r.payload.outcome).1 = true)
  let executionAttempts ← replaced.executionAttempts.replace? attempt
    (reportAttempt r attempt receivedAt)
  let taskEvents ← replaced.taskEvents.insert? (reportEvent r task receivedAt)
  let tasks ← replaced.tasks.replace? task (reportMove r task receivedAt)
  return { replaced with executionAttempts, taskEvents, tasks }

/-- mirrors task_discovery_repository.py:303-540 -/
def converge (r : DiscoveryReport) (candidates : Option (List DouyinCandidate)) (receivedAt : Time)
    (ids : Nat → TargetId) (db : Db) : Option (TaskDiscoveryConvergenceResult × Db) :=
  match repeated db r.message with
  | [] => do
    let (task, attempt) ← requireActiveAttempt r.message r.payload.pageRevision db
    guard (task.updatedAt ≤ receivedAt ∧ attempt.updatedAt ≤ receivedAt)
    guard (candidatesFit r candidates)
    let db' ← record r candidates receivedAt ids task attempt db
    return (⟨reportMove r task receivedAt, false⟩, db')
  | [duplicate] => do
    guard (duplicate.sourceFingerprint = .message (outboundIntent r.message))
    guard (finalReplay r db)
    guard (replayFits db r candidates)
    let task ← db.task? r.message.taskId r.message.installationId
    return (⟨task, true⟩, db)
  | _ => none

/-- `receive_completed`, the accumulated candidates given: a report is received between
its sending and its deadline.
mirrors application/task_discovery.py:311-363 -/
def receiveCompleted (r : DiscoveryReport) (candidates : Option (List DouyinCandidate))
    (receivedAt : Time) (ids : Nat → TargetId) (db : Db) :
    Option (TaskDiscoveryConvergenceResult × Db) := do
  guard (r.message.sentAt ≤ receivedAt ∧ receivedAt < r.message.deadlineAt)
  converge r candidates receivedAt ids db

end TaskDiscoveryRepository
end AutomationTool.ControlPlane
