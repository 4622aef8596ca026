import AutomationTool.ControlPlane.Database

/-!
# The persistent outbox of executor commands

The seven operations of `SqlAlchemyTaskCommandRepository`. Each is one transaction: a
function to the reply and the next database, or `none` when the source raises and the
transaction is rolled back. `update? … = none` and `insert? … = none` are its
`IntegrityError`s.
mirrors control_plane/infrastructure/database/task_command_repository.py

* `enqueue`, `enqueueControl`: the writers of a new row.
* `expireDue`, `claimNext`, `markDelivered`, `releaseForRetry`, `acknowledge`: the delivery.
-/
namespace AutomationTool.ControlPlane

open Protocol

/-- mirrors task_command_delivery.py:83-119 -/
structure PendingTaskCommand where
  messageId : MessageId
  correlationId : CorrelationId
  installationId : InstallationId
  taskId : TaskId
  executionAttemptId : ExecutionAttemptId
  sequence : Nat
  commandType : TaskCommandType
  idempotencyKey : IdempotencyKey
  deadlineAt : Time
  createdAt : Time
  sequence_mem : 1 ≤ sequence ∧ sequence ≤ maxTaskEventSequence := by decide
  deadline_later : createdAt < deadlineAt := by decide
  deriving DecidableEq

/-- A control command of a task. -/
inductive TaskControlType where
  | pause | resume | cancel | emergencyStop
  deriving DecidableEq, Repr

def TaskControlType.commandType : TaskControlType → TaskCommandType
  | .pause => .taskPause
  | .resume => .taskResume
  | .cancel => .taskCancel
  | .emergencyStop => .taskEmergencyStop

/-- mirrors control_plane/application/task_controls.py -/
@[ext] structure PendingTaskControl where
  messageId : MessageId
  correlationId : CorrelationId
  installationId : InstallationId
  taskId : TaskId
  controlType : TaskControlType
  idempotencyKey : IdempotencyKey
  createdAt : Time
  deadlineAt : Time
  deadline_later : createdAt < deadlineAt := by decide

instance : DecidableEq PendingTaskControl := fun _ _ => decidable_of_iff' _ PendingTaskControl.ext_iff

structure TaskControlEnqueueResult where
  command : TaskCommand
  created : Bool
  deriving DecidableEq

/-- The columns every new outbox row starts with. -/
def newCommand (messageId : MessageId) (correlationId : CorrelationId) (i : InstallationId)
    (t : TaskId) (e : ExecutionAttemptId) (sequence : Nat) (commandType : TaskCommandType)
    (confirmation : Option MessageId) (actionId : Option ActionId) (baseline : Option Nat)
    (idempotencyKey : IdempotencyKey) (createdAt deadlineAt : Time) : TaskCommand where
  messageId := messageId
  correlationId := correlationId
  installationId := i
  taskId := t
  executionAttemptId := e
  sequence := sequence
  commandType := commandType
  targetConfirmationMessageId := confirmation
  actionId := actionId
  taskEventSequenceBaseline := baseline
  status := .pending
  idempotencyKey := idempotencyKey
  revision := 1
  deliveryAttempts := 0
  nextDeliveryAt := some createdAt
  leaseExpiresAt := none
  deliveredAt := none
  acknowledgedAt := none
  responseMessageId := none
  responseType := none
  deadlineAt := deadlineAt
  createdAt := createdAt
  updatedAt := createdAt

namespace Db

/-- `INSERT INTO task_commands`, with the table's foreign keys. -/
def insertCommand (db : Db) (c : TaskCommand) : Option Db := do
  guard (∃ e ∈ db.executionAttempts.rows,
    e.id = c.executionAttemptId ∧ e.taskId = c.taskId ∧ e.installationId = c.installationId)
  guard (∀ a ∈ c.actionId, ∃ r ∈ db.taskActions.rows,
    r.id = a ∧ r.executionAttemptId = c.executionAttemptId ∧ r.taskId = c.taskId ∧
      r.installationId = c.installationId)
  let taskCommands ← db.taskCommands.insert? c
  return { db with taskCommands }

theorem insertCommand_eq_some {db db' : Db} {c : TaskCommand} (h : db.insertCommand c = some db') :
    (∃ e ∈ db.executionAttempts, e.id = c.executionAttemptId ∧ e.taskId = c.taskId ∧
      e.installationId = c.installationId) ∧
    ∃ rows, db.taskCommands.insert? c = some rows ∧ db' = { db with taskCommands := rows } := by
  simp only [insertCommand, Option.bind_eq_bind, Option.bind_eq_some_iff, Option.guard_eq_some',
    Option.pure_def, Option.some.injEq] at h
  obtain ⟨_, he, _, _, rows, hr, rfl⟩ := h
  exact ⟨he, rows, hr, rfl⟩

end Db

namespace TaskCommandRepository

/-- `_same_intent`. mirrors task_command_repository.py:106-122 -/
def sameIntent (existing : TaskCommand) (pending : PendingTaskCommand)
    (confirmation : Option MessageId) : Prop :=
  existing.installationId = pending.installationId ∧ existing.taskId = pending.taskId ∧
    existing.executionAttemptId = pending.executionAttemptId ∧
    existing.sequence = pending.sequence ∧ existing.commandType = pending.commandType ∧
    existing.targetConfirmationMessageId = confirmation ∧
    existing.idempotencyKey = pending.idempotencyKey ∧ existing.deadlineAt = pending.deadlineAt

instance (existing : TaskCommand) (pending : PendingTaskCommand) (c : Option MessageId) :
    Decidable (sameIntent existing pending c) := by
  unfold sameIntent; infer_instance

/-- The confirmation a command relies on, joined with its task and definition. -/
def confirmed? (db : Db) (t : TaskId) (i : InstallationId) :
    Option (TaskTargetConfirmation × Task × Definition) := do
  let confirmation ← db.confirmation? t i
  let task ← db.task? t i
  let definition ← db.definition? t i
  return (confirmation, task, definition)

/-- The confirmation still says what the definition says. -/
def agrees (confirmation : TaskTargetConfirmation) (definition : Definition) : Prop :=
  confirmation.action = definition.action ∧
    confirmation.messageTemplate = definition.messageTemplate

instance (c : TaskTargetConfirmation) (d : Definition) : Decidable (agrees c d) := by
  unfold agrees; infer_instance

/-- mirrors task_command_repository.py:188-354 -/
def enqueue (command : PendingTaskCommand) (db : Db) : Option (TaskCommand × Db) := do
  guard (db.active command.installationId)
  let requiresTargetConfirmation := command.commandType == .taskOffer &&
    (db.definition? command.taskId command.installationId).isSome
  let confirmation := if requiresTargetConfirmation then
    confirmed? db command.taskId command.installationId else none
  let confirmationMessageId := confirmation.map fun c => c.1.sourceMessageId
  let baseline := if command.commandType = .taskOffer then
    (db.task? command.taskId command.installationId).map Task.lastEventSequence else none
  guard (command.commandType = .taskOffer → baseline.any (· < maxTaskEventSequence) = true)
  match db.commandByKey? command.installationId command.idempotencyKey with
  | some existing =>
    guard (sameIntent existing command confirmationMessageId)
    return (existing, db)
  | none =>
    guard (requiresTargetConfirmation = true → ∃ c ∈ confirmation, c.2.1.status = .queued ∧
      c.2.1.revision = c.1.confirmedTaskRevision ∧ agrees c.1 c.2.2)
    guard (¬db.gated command.installationId)
    let created := newCommand command.messageId command.correlationId command.installationId
      command.taskId command.executionAttemptId command.sequence command.commandType
      confirmationMessageId none baseline command.idempotencyKey command.createdAt
      command.deadlineAt
    return (created, ← db.insertCommand created)

/-- `_TERMINATION_COMMANDS`. -/
def isTermination : TaskCommandType → Bool
  | .taskCancel | .taskEmergencyStop => true
  | _ => false

/-- `_CANCELLABLE_ATTEMPT_STATUSES`. -/
def isCancellable : ExecutionAttemptStatus → Bool
  | .pending | .offered | .accepted | .running | .paused | .awaitingHuman => true
  | _ => false

/-- What a control asks of the task and the attempt it is for. -/
def controllable (control : PendingTaskControl) (task : Task) (attempt : ExecutionAttempt) :
    Prop :=
  match control.controlType with
  | .pause => task.status = .running ∧ attempt.status = .running
  | .resume => task.status = .paused ∧ attempt.status = .paused
  | .cancel | .emergencyStop =>
    TaskStateMachine.canTransition task.status .cancelling = true ∧
      isCancellable attempt.status = true ∧ task.updatedAt ≤ control.createdAt ∧
      attempt.updatedAt ≤ control.createdAt

instance (control : PendingTaskControl) (task : Task) (attempt : ExecutionAttempt) :
    Decidable (controllable control task attempt) := by
  unfold controllable
  split <;> infer_instance

/-- The last sequence allocated to an attempt. -/
def lastSequence (db : Db) (e : ExecutionAttemptId) : Nat :=
  db.taskCommands.maxOf (fun c => c.executionAttemptId = e) TaskCommand.sequence

def cancellingTask (control : PendingTaskControl) (task : Task) : Task :=
  { task with
    status := .cancelling
    revision := task.revision + 1
    updatedAt := control.createdAt }

def cancellingAttempt (control : PendingTaskControl) (attempt : ExecutionAttempt) :
    ExecutionAttempt :=
  { attempt with
    status := .cancelling
    revision := attempt.revision + 1
    updatedAt := control.createdAt }

/-- A first termination takes the task and its attempt to `cancelling`. -/
def projectTermination (control : PendingTaskControl) (task : Task) (attempt : ExecutionAttempt)
    (db : Db) : Option Db :=
  if isTermination control.controlType.commandType then do
    let tasks ← db.tasks.replace? task (cancellingTask control task)
    let executionAttempts ← db.executionAttempts.replace? attempt
      (cancellingAttempt control attempt)
    return { db with tasks, executionAttempts }
  else some db

def controlCommand (control : PendingTaskControl) (e : ExecutionAttemptId) (db : Db) :
    TaskCommand :=
  newCommand control.messageId control.correlationId control.installationId control.taskId e
    (lastSequence db e + 1) control.controlType.commandType none none none control.idempotencyKey
    control.createdAt control.deadlineAt

/-- mirrors task_command_repository.py:356-536 -/
def enqueueControl (control : PendingTaskControl) (db : Db) :
    Option (TaskControlEnqueueResult × Db) := do
  guard (db.active control.installationId)
  match db.commandByKey? control.installationId control.idempotencyKey with
  | some existing =>
    guard (existing.taskId = control.taskId ∧
      existing.commandType = control.controlType.commandType)
    return (⟨existing, false⟩, db)
  | none =>
    let task ← db.task? control.taskId control.installationId
    let attemptId ← task.currentAttemptId
    let attempt ← db.attempt? attemptId control.taskId control.installationId
    guard (controllable control task attempt)
    guard (lastSequence db attemptId < maxTaskEventSequence)
    let created := controlCommand control attemptId db
    let inserted ← db.insertCommand created
    return (⟨created, true⟩, ← projectTermination control task attempt inserted)

/-! ## Delivery -/

/-- A row past its deadline; whether it was delivered stays recorded. -/
def expired (timestamp : Time) (c : TaskCommand) : TaskCommand :=
  { c with
    status := .expired
    revision := c.revision + 1
    nextDeliveryAt := none
    leaseExpiresAt := none
    acknowledgedAt := none
    responseMessageId := none
    responseType := none
    updatedAt := timestamp }

def isDue (i : InstallationId) (now : Time) (c : TaskCommand) : Bool :=
  c.installationId = i ∧ (c.status = .pending ∨ c.status = .inFlight ∨ c.status = .delivered) ∧
    c.deadlineAt ≤ now ∧ c.updatedAt ≤ now

/-- mirrors task_command_repository.py:538-576 -/
def expireDue (i : InstallationId) (now : Time) (db : Db) : Option (Nat × Db) := do
  let taskCommands ← db.taskCommands.update? (isDue i now) (expired now)
  return (db.taskCommands.rows.countP (isDue i now), { db with taskCommands })

/-- When `claim_next` is called, and what it may claim. -/
structure ClaimRequest where
  installationId : InstallationId
  now : Time
  leaseExpiresAt : Time
  retryDeliveredBefore : Time
  recoverDelivered : Bool
  deriving DecidableEq

/-- `due`: not yet sent, its lease lapsed, or sent and not answered in time. -/
def claimable (request : ClaimRequest) (c : TaskCommand) : Prop :=
  match c.status with
  | .pending => ∃ t ∈ c.nextDeliveryAt, t ≤ request.now
  | .inFlight => ∃ t ∈ c.leaseExpiresAt, t ≤ request.now
  | .delivered => ∃ t ∈ c.deliveredAt, if request.recoverDelivered then
      t < request.retryDeliveredBefore else t ≤ request.retryDeliveredBefore
  | _ => False

instance (request : ClaimRequest) (c : TaskCommand) : Decidable (claimable request c) := by
  cases c
  unfold claimable
  dsimp only
  split <;> infer_instance

/-- The filter on what a task offer or an action still relies on. -/
def backed (db : Db) (c : TaskCommand) : Prop :=
  ¬(c.commandType = .taskOffer ∨ c.commandType = .actionExecute) ∨
    match c.targetConfirmationMessageId with
    | none => db.definition? c.taskId c.installationId = none
    | some m => ∃ x ∈ confirmed? db c.taskId c.installationId, x.1.sourceMessageId = m ∧
        (x.2.1.status = .queued ∨ x.2.1.status = .running) ∧
        x.1.confirmedTaskRevision ≤ x.2.1.revision ∧ agrees x.1 x.2.2

instance (db : Db) (c : TaskCommand) : Decidable (backed db c) := by
  unfold backed
  split <;> infer_instance

/-- The `WHERE` of `claim_next`; `locked` are the rows another transaction holds. -/
def isCandidate (request : ClaimRequest) (locked : MessageId → Bool) (db : Db)
    (c : TaskCommand) : Bool :=
  c.installationId = request.installationId ∧ request.now < c.deadlineAt ∧
    c.updatedAt ≤ request.now ∧ claimable request c ∧ backed db c ∧
    (db.gated request.installationId → isTermination c.commandType = true) ∧
    locked c.messageId = false

/-- `ORDER BY deadline_at, created_at, message_id`. -/
def claimOrder (c : TaskCommand) : Time ×ₗ Time ×ₗ MessageId :=
  toLex (c.deadlineAt, toLex (c.createdAt, c.messageId))

def claimed (request : ClaimRequest) (c : TaskCommand) : TaskCommand :=
  { c with
    status := .inFlight
    revision := c.revision + 1
    deliveryAttempts := c.deliveryAttempts + 1
    nextDeliveryAt := none
    leaseExpiresAt := some (min request.leaseExpiresAt c.deadlineAt)
    deliveredAt := none
    acknowledgedAt := none
    responseMessageId := none
    responseType := none
    updatedAt := request.now }

/-- What a claimed command is sent with.
mirrors task_command_delivery.py:121-148 -/
inductive CommandContext where
  | none
  | discovery (payload : DouyinDiscoveryCommandPayload)
  | action (authorization : ActionRiskAuthorization) (candidate : DouyinCandidate)
      (messageTemplate : Option String)
  deriving DecidableEq

/-- mirrors task_command_repository.py:744-852 -/
def context? (db : Db) (c : TaskCommand) : Option CommandContext :=
  match c.commandType with
  | .taskDiscover => do
    let definition ← db.definition? c.taskId c.installationId
    let attempt ← db.attempt? c.executionAttemptId c.taskId c.installationId
    return .discovery ⟨definition.searchKeyword, definition.targetLimit, attempt.attemptNumber,
      definition.target_mem.1, definition.target_mem.2⟩
  | .actionExecute => do
    let actionId ← c.actionId
    let authorization ← db.actionRiskAuthorizations.find? fun a => a.actionId = actionId ∧
      a.executionAttemptId = c.executionAttemptId ∧ a.taskId = c.taskId ∧
      a.installationId = c.installationId
    let target ← db.taskTargets.find? fun r => r.id = authorization.targetId ∧
      r.taskId = authorization.taskId ∧ r.installationId = authorization.installationId
    let definition ← db.definition? authorization.taskId authorization.installationId
    return .action authorization target.candidate definition.messageTemplate
  | _ => some .none

/-- mirrors task_command_repository.py:578-852 -/
def claimNext (request : ClaimRequest) (locked : MessageId → Bool) (db : Db) :
    Option (Option (TaskCommand × CommandContext) × Db) := do
  guard (request.now < request.leaseExpiresAt)
  if db.active request.installationId then
    match db.taskCommands.least? (isCandidate request locked db) claimOrder with
    | none => return (none, db)
    | some current =>
      let taskCommands ← db.taskCommands.replace? current (claimed request current)
      let context ← context? db (claimed request current)
      return (some (claimed request current, context), { db with taskCommands })
  else return (none, db)

/-- A command by its primary key. -/
def command? (db : Db) (m : MessageId) : Option TaskCommand :=
  db.taskCommands.find? fun c => c.messageId = m

theorem command?_eq_some {db : Db} {m : MessageId} {c : TaskCommand} :
    command? db m = some c ↔ c ∈ db.taskCommands ∧ c.messageId = m :=
  Relation.find?_key_iff fun _ _ ha hb hab => hab.1 (ha.trans hb.symm)

/-- mirrors task_command_repository.py:854-890 -/
def markDelivered (m : MessageId) (expectedRevision : Nat) (deliveredAt : Time) (db : Db) :
    Option (TaskCommand × Db) := do
  let current ← command? db m
  guard (current.revision = expectedRevision ∧ current.status = .inFlight ∧
    current.updatedAt ≤ deliveredAt ∧ deliveredAt < current.deadlineAt)
  let delivered :=
    { current with
      status := .delivered
      revision := current.revision + 1
      leaseExpiresAt := none
      deliveredAt := some deliveredAt
      updatedAt := deliveredAt }
  let taskCommands ← db.taskCommands.replace? current delivered
  return (delivered, { db with taskCommands })

/-- mirrors task_command_repository.py:892-959 -/
def releaseForRetry (m : MessageId) (expectedRevision : Nat) (now retryAt : Time) (db : Db) :
    Option (TaskCommand × Db) := do
  guard (now ≤ retryAt)
  let current ← command? db m
  guard (current.revision = expectedRevision ∧ current.status = .inFlight ∧
    current.updatedAt ≤ now)
  let lapsed := current.deadlineAt ≤ now ∨ current.deadlineAt ≤ retryAt
  let released :=
    { current with
      status := if lapsed then .expired else .pending
      revision := current.revision + 1
      nextDeliveryAt := if lapsed then none else some retryAt
      leaseExpiresAt := none
      deliveredAt := none
      acknowledgedAt := none
      responseMessageId := none
      responseType := none
      updatedAt := now }
  let taskCommands ← db.taskCommands.replace? current released
  return (released, { db with taskCommands })

inductive CommandResponsePayload where
  | accepted (value : Bool)
  | acknowledged
  deriving DecidableEq, Repr

/-- A `TaskCommandResultEnvelope`, with the fields `acknowledge` reads. -/
structure TaskCommandResponse where
  messageId : MessageId
  correlationId : CorrelationId
  installationId : InstallationId
  taskId : TaskId
  executionAttemptId : ExecutionAttemptId
  sequence : Nat
  responseType : TaskCommandResponseType
  payload : CommandResponsePayload
  deriving DecidableEq

/-- `_response_payload_is_valid`. mirrors task_command_repository.py:125-140 -/
def responsePayloadIsValid (response : TaskCommandResponse) : Bool :=
  match response.responseType with
  | .taskAccept | .actionAccept => response.payload == .accepted true
  | .taskReject | .actionReject => response.payload == .accepted false
  | .taskControlAck => response.payload == .acknowledged

/-- The status a response settles a command with. -/
def finalStatus : TaskCommandResponseType → TaskCommandStatus
  | .taskReject | .actionReject => .rejected
  | _ => .acknowledged

/-- The command a response answers. -/
def answered? (db : Db) (response : TaskCommandResponse) : Option TaskCommand :=
  db.taskCommands.find? fun c => c.installationId = response.installationId ∧
    c.taskId = response.taskId ∧ c.executionAttemptId = response.executionAttemptId ∧
    c.correlationId = response.correlationId ∧ c.sequence = response.sequence

theorem answered?_eq_some {db : Db} {response : TaskCommandResponse} {c : TaskCommand} :
    answered? db response = some c ↔ c ∈ db.taskCommands ∧
      c.installationId = response.installationId ∧ c.taskId = response.taskId ∧
      c.executionAttemptId = response.executionAttemptId ∧
      c.correlationId = response.correlationId ∧ c.sequence = response.sequence :=
  Relation.find?_key_iff fun _ _ ha hb hab =>
    hab.2.1 ⟨ha.2.2.1.trans hb.2.2.1.symm, ha.2.2.2.2.trans hb.2.2.2.2.symm⟩

/-- mirrors task_command_repository.py:961-1072 -/
def acknowledge (response : TaskCommandResponse) (timestamp : Time) (db : Db) :
    Option (TaskCommand × Db) := do
  guard (responsePayloadIsValid response = true)
  let current ← answered? db response
  guard (TaskCommand.responseMatches current.commandType response.responseType = true)
  match current.status with
  | .acknowledged | .rejected =>
    guard (current.responseType = some response.responseType)
    return (current, db)
  | .expired => return (current, db)
  | .pending | .inFlight => none
  | .delivered =>
    let settled := if current.deadlineAt < timestamp then expired timestamp current else
      { current with
        status := finalStatus response.responseType
        revision := current.revision + 1
        acknowledgedAt := some timestamp
        responseMessageId := some response.messageId
        responseType := some response.responseType
        updatedAt := timestamp }
    let taskCommands ← db.taskCommands.replace? current settled
    return (settled, { db with taskCommands })

end TaskCommandRepository
end AutomationTool.ControlPlane
