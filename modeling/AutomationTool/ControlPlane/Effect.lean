import AutomationTool.ControlPlane.Service

/-!
# What an operation can do to the database

`Effect o db db'` lists, once and with their guards, the changes an operation can make:
one constructor for each writer, `same` for everything that reads, repeats or raises.
`exec_effect` proves it of `exec`. The invariants are case analyses of `Effect`, never of
the operations.
-/
namespace AutomationTool.ControlPlane

open Protocol TaskCommandRepository TaskTargetRepository TaskTargetPreviewRepository
  TaskDiscoveryRepository TaskEventConvergence TaskEventConvergenceRepository
  ActionRiskAuthorizationRepository ActionExecutionOrchestrationRepository

/-- A command that is not settled, moved one revision on; what it says is never changed. -/
structure CommandMove (c c' : TaskCommand) : Prop where
  live : c.status.isTerminal = false
  revision : c'.revision = c.revision + 1
  identity : c' = { c with
    status := c'.status
    revision := c'.revision
    deliveryAttempts := c'.deliveryAttempts
    nextDeliveryAt := c'.nextDeliveryAt
    leaseExpiresAt := c'.leaseExpiresAt
    deliveredAt := c'.deliveredAt
    acknowledgedAt := c'.acknowledgedAt
    responseMessageId := c'.responseMessageId
    responseType := c'.responseType
    updatedAt := c'.updatedAt }

/-- The operations that deliver commands. -/
def Op.isDelivery : Op → Bool
  | .expireDue .. | .claimNext .. | .markDelivered .. | .releaseForRetry .. | .acknowledge .. => true
  | _ => false

/-- A delivery operation: every command stays or moves. -/
def Delivered (t t' : Relation TaskCommand) : Prop :=
  ∃ f : TaskCommand → TaskCommand, t'.rows = t.rows.map f ∧ ∀ c ∈ t, f c = c ∨ CommandMove c (f c)

/-- What a control found. -/
structure Controlled (control : PendingTaskControl) (db : Db) (task : Task)
    (attempt : ExecutionAttempt) : Prop where
  task_eq : db.task? control.taskId control.installationId = some task
  current : task.currentAttemptId = some attempt.id
  attempt_eq : db.attempt? attempt.id control.taskId control.installationId = some attempt
  controllable : controllable control task attempt

/-- What an event that is projected found, and what was made of it. -/
structure Converged (p : PendingTaskEvent) (db : Db) (task : Task) (attempt : ExecutionAttempt)
    (action : Option ActionMove) (opened : Bool) (j : Projection) : Prop where
  task_eq : db.task? p.message.taskId p.message.installationId = some task
  current : task.currentAttemptId = some p.message.executionAttemptId
  attempt_eq : db.attempt? p.message.executionAttemptId p.message.taskId
    p.message.installationId = some attempt
  sequence : p.message.sequence = task.lastEventSequence + 1
  action_eq : namedAction db p = some action
  projection_eq : projection p opened task attempt = some j

/-- What an event did to the failure circuits and their results. -/
def RiskStep (p : PendingTaskEvent) (db : Db) (opened : Bool)
    (results : Relation ActionRiskResult) (circuits : Relation ActionFailureCircuit) : Prop :=
  ∃ recorded, recordActionRiskResult p db = some (opened, recorded) ∧
    clearOwnedFailureCircuit p recorded =
      some { db with actionRiskResults := results, actionFailureCircuits := circuits }

/-- The attempt an event leaves. -/
def projectedAttempt (p : PendingTaskEvent) (attempt : ExecutionAttempt)
    (status : ExecutionAttemptStatus) : ExecutionAttempt :=
  if status = attempt.status then attempt else movedAttempt p attempt status

/-- The action an event leaves. -/
def projectedAction (p : PendingTaskEvent) (m : ActionMove) : TaskAction :=
  if (m.status, m.outcome) = (m.row.status, m.row.outcome) then m.row else movedAction p m

/-- The actions, with the one an event names as the event leaves it. -/
def ActionsProjected (p : PendingTaskEvent) (t t' : Relation TaskAction) :
    Option ActionMove → Prop
  | none => t' = t
  | some m => t.Replaced t' m.row (projectedAction p m)

/-- A discovery that may start. -/
structure Startable (pending : PendingTaskDiscovery) (db : Db) (task : Task) : Prop where
  task_eq : db.task? pending.taskId pending.installationId = some task
  reachable : discoveryReachable task.status = true
  idle : ¬busy db pending.installationId

/-- The preview of one task is replaced; everything of the others stays. -/
structure PreviewReplaced (db : Db) (t : TaskId) (i : InstallationId)
    (targets : Relation TaskTarget) (exclusions : Relation TaskTargetExclusion)
    (confirmations : Relation TaskTargetConfirmation) : Prop where
  targets_iff : ∀ r, ¬(r.taskId = t ∧ r.installationId = i) → (r ∈ targets ↔ r ∈ db.taskTargets)
  exclusions_iff : ∀ x, ¬(x.taskId = t ∧ x.installationId = i) →
    (x ∈ exclusions ↔ x ∈ db.taskTargetExclusions)
  confirmations_iff : ∀ c, ¬(c.taskId = t ∧ c.installationId = i) →
    (c ∈ confirmations ↔ c ∈ db.taskTargetConfirmations)
  confirmations_mem : ∀ c ∈ confirmations, c ∈ db.taskTargetConfirmations

/-- The exclusions of one page of one task are replaced. -/
def ExclusionsReplaced (db : Db) (t : TaskId) (i : InstallationId)
    (exclusions : Relation TaskTargetExclusion) : Prop :=
  ∀ x, ¬(x.taskId = t ∧ x.installationId = i) → (x ∈ exclusions ↔ x ∈ db.taskTargetExclusions)

/-- What an offer found. -/
structure Offerable (pending : PendingActionExecutionAdvance) (db : Db) (task : Task)
    (confirmation : TaskTargetConfirmation) : Prop where
  task_mem : task ∈ db.tasks
  installation : task.installationId = pending.installationId
  status : task.status = .queued
  current : task.currentAttemptId = none
  confirmation_eq : db.confirmation? task.id pending.installationId = some confirmation

/-- What a finalization found. -/
structure Finishable (pending : PendingActionExecutionAdvance) (db : Db) (task : Task)
    (attempt : ExecutionAttempt) (plan : TaskStatus × ExecutionAttemptStatus × TaskEventType) :
    Prop where
  task_eq : db.task? attempt.taskId pending.installationId = some task
  attempt_mem : attempt ∈ db.executionAttempts
  installation : attempt.installationId = pending.installationId
  current : task.currentAttemptId = some attempt.id
  status : task.status = .running
  settled : ∀ a ∈ db.taskActions, a.executionAttemptId = attempt.id → a.status.isTerminal = true
  plan_eq : ∃ outcomes, plan = finalPlan outcomes

/-- What a grant found. -/
structure Granted (q : AuthorizationRequest) (db : Db) (target : TaskTarget)
    (definition : Definition) (interval : Nat) : Prop where
  scope : q.policy.scope.installationId = q.installationId
  active : db.active q.installationId
  fresh : authorization? db q.actionId = none
  admitted : admitted? q db = some (definition, target)
  limited : withinLimits q definition db = .ok interval

/-- What the operation `o` can make of the database. -/
inductive Effect : Op → Db → Db → Prop where
  | same (o : Op) (db : Db) : Effect o db db
  | registered {i : InstallationId} {t : Time} {db : Db} {rows : Relation Installation}
      (h : db.installations.insert? (newInstallation i t) = some rows) :
      Effect (.register i t) db { db with installations := rows }
  | revoked {i : InstallationId} {n : Nat} {t : Time} {db : Db} {row : Installation}
      {rows : Relation Installation}
      (h : db.installations.Replaced rows row (revokedInstallation row t)) :
      Effect (.revoke i n t) db { db with installations := rows }
  | session {o : Op} {db : Db} {platformSessionHealth : Relation PlatformSessionHealth}
      {platformSessionGates : Relation PlatformSessionGate} :
      Effect o db { db with platformSessionHealth, platformSessionGates }
  | created {p : PendingTask} {db : Db} {tasks : Relation Task} {definitions : Relation Definition}
      (ht : db.tasks.insert? (newTask p) = some tasks)
      (hd : db.definitions.insert? (newDefinition p) = some definitions) :
      Effect (.create p) db { db with tasks, definitions }
  | delivered {o : Op} {db : Db} {taskCommands : Relation TaskCommand} (ho : o.isDelivery = true)
      (h : Delivered db.taskCommands taskCommands) : Effect o db { db with taskCommands }
  | enqueued {command : PendingTaskCommand} {db : Db} {confirmation : Option MessageId}
      {baseline : Option Nat} {taskCommands : Relation TaskCommand}
      (h : db.taskCommands.insert? (newCommand command.messageId command.correlationId
        command.installationId command.taskId command.executionAttemptId command.sequence
        command.commandType confirmation none baseline command.idempotencyKey command.createdAt
        command.deadlineAt) = some taskCommands) :
      Effect (.enqueue command) db { db with taskCommands }
  | controlled {control : PendingTaskControl} {db : Db} {task : Task} {attempt : ExecutionAttempt}
      {taskCommands : Relation TaskCommand} (h : Controlled control db task attempt)
      (hc : db.taskCommands.insert? (controlCommand control attempt.id db) = some taskCommands) :
      Effect (.enqueueControl control) db { db with taskCommands }
  | terminated {control : PendingTaskControl} {db : Db} {task : Task} {attempt : ExecutionAttempt}
      {taskCommands : Relation TaskCommand} {tasks : Relation Task}
      {executionAttempts : Relation ExecutionAttempt} (h : Controlled control db task attempt)
      (hk : isTermination control.controlType.commandType = true)
      (hc : db.taskCommands.insert? (controlCommand control attempt.id db) = some taskCommands)
      (ht : db.tasks.Replaced tasks task (cancellingTask control task))
      (ha : db.executionAttempts.Replaced executionAttempts attempt
        (cancellingAttempt control attempt)) :
      Effect (.enqueueControl control) db { db with taskCommands, tasks, executionAttempts }
  | converged {m : Outbound} {t : Time} {p : PendingTaskEvent} {db : Db} {task : Task}
      {attempt : ExecutionAttempt} {action : Option ActionMove} {opened : Bool} {j : Projection}
      {actionRiskResults : Relation ActionRiskResult}
      {actionFailureCircuits : Relation ActionFailureCircuit}
      {executionAttempts : Relation ExecutionAttempt} {taskActions : Relation TaskAction}
      {taskEvents : Relation TaskEvent} {tasks : Relation Task}
      (hp : pending? m t = some p) (h : Converged p db task attempt action opened j)
      (hr : RiskStep p db opened actionRiskResults actionFailureCircuits)
      (ha : db.executionAttempts.Replaced executionAttempts attempt
        (projectedAttempt p attempt j.attemptStatus))
      (hx : ActionsProjected p db.taskActions taskActions action)
      (he : db.taskEvents.insert? (eventRow p j task) = some taskEvents)
      (ht : db.tasks.Replaced tasks task (movedTask p j task)) :
      Effect (.receive m t) db
        { db with
          actionRiskResults, actionFailureCircuits, executionAttempts, taskActions, taskEvents,
          tasks }
  | discoveryStarted {pending : PendingTaskDiscovery} {db : Db} {task : Task}
      {executionAttempts : Relation ExecutionAttempt} {taskCommands : Relation TaskCommand}
      {taskEvents : Relation TaskEvent} {tasks : Relation Task} (h : Startable pending db task)
      (ha : db.executionAttempts.insert? (offeredAttempt pending.executionAttemptId
        pending.taskId pending.installationId
        (lastAttemptNumber db pending.taskId pending.installationId + 1) pending.createdAt) =
          some executionAttempts)
      (hc : db.taskCommands.insert? (startCommand pending) = some taskCommands)
      (he : db.taskEvents.insert? (startEvent pending task) = some taskEvents)
      (ht : db.tasks.Replaced tasks task (startMove pending task)) :
      Effect (.startDiscovery pending) db
        { db with executionAttempts, taskCommands, taskEvents, tasks }
  | discoveryReported {r : DiscoveryReport} {candidates : Option (List DouyinCandidate)} {t : Time}
      {ids : Nat → TargetId} {db : Db} {task : Task} {attempt : ExecutionAttempt}
      {taskTargets : Relation TaskTarget} {taskTargetExclusions : Relation TaskTargetExclusion}
      {taskTargetConfirmations : Relation TaskTargetConfirmation}
      {executionAttempts : Relation ExecutionAttempt} {taskEvents : Relation TaskEvent}
      {tasks : Relation Task}
      (h : requireActiveAttempt r.message r.payload.pageRevision db = some (task, attempt))
      (hv : PreviewReplaced db r.message.taskId r.message.installationId taskTargets
        taskTargetExclusions taskTargetConfirmations)
      (ha : db.executionAttempts.Replaced executionAttempts attempt (reportAttempt r attempt t))
      (he : db.taskEvents.insert? (reportEvent r task t) = some taskEvents)
      (ht : db.tasks.Replaced tasks task (reportMove r task t)) :
      Effect (.receiveCompleted r candidates t ids) db
        { db with
          taskTargets, taskTargetExclusions, taskTargetConfirmations, executionAttempts,
          taskEvents, tasks }
  | exclusionsReplaced {pending : PendingTaskTargetExclusions} {db : Db} {task : Task}
      {taskTargetExclusions : Relation TaskTargetExclusion} {taskEvents : Relation TaskEvent}
      {tasks : Relation Task}
      (h : db.task? pending.taskId pending.installationId = some task)
      (hs : task.status = .awaitingConfirmation)
      (hv : ExclusionsReplaced db pending.taskId pending.installationId taskTargetExclusions)
      (he : db.taskEvents.insert? ((exclusionsEvent pending).row task) = some taskEvents)
      (ht : db.tasks.Replaced tasks task ((exclusionsEvent pending).move task)) :
      Effect (.replaceExclusions pending) db { db with taskTargetExclusions, taskEvents, tasks }
  | confirmed {pending : PendingTaskTargetConfirmation} {db : Db} {task : Task}
      {intent : TaskTargetConfirmationIntent}
      {taskTargetConfirmations : Relation TaskTargetConfirmation}
      {taskEvents : Relation TaskEvent} {tasks : Relation Task}
      (h : db.task? pending.taskId pending.installationId = some task)
      (hs : task.status = .awaitingConfirmation)
      (hv : db.taskTargetConfirmations.insert? (confirmationRow pending intent) =
        some taskTargetConfirmations)
      (he : db.taskEvents.insert? ((confirmationEvent pending).row task) = some taskEvents)
      (ht : db.tasks.Replaced tasks task ((confirmationEvent pending).move task)) :
      Effect (.confirm pending) db { db with taskTargetConfirmations, taskEvents, tasks }
  | offered {pending : PendingActionExecutionAdvance} {skipped : TaskId → Bool} {db : Db}
      {task : Task} {confirmation : TaskTargetConfirmation}
      {executionAttempts : Relation ExecutionAttempt} {taskCommands : Relation TaskCommand}
      {tasks : Relation Task} (h : Offerable pending db task confirmation)
      (ha : db.executionAttempts.insert? (offeredAttempt pending.executionAttemptId task.id
        pending.installationId (lastAttemptNumber db task.id pending.installationId + 1)
        pending.requestedAt) = some executionAttempts)
      (hc : db.taskCommands.insert? (offerCommand pending task confirmation) = some taskCommands)
      (ht : db.tasks.Replaced tasks task
        { task with
          currentAttemptId := some pending.executionAttemptId
          updatedAt := pending.requestedAt }) :
      Effect (.prepare pending skipped) db { db with executionAttempts, taskCommands, tasks }
  | finished {pending : PendingActionExecutionAdvance} {skipped : TaskId → Bool} {db : Db}
      {task : Task} {attempt : ExecutionAttempt}
      {plan : TaskStatus × ExecutionAttemptStatus × TaskEventType}
      {executionAttempts : Relation ExecutionAttempt} {taskEvents : Relation TaskEvent}
      {tasks : Relation Task} (h : Finishable pending db task attempt plan)
      (ha : db.executionAttempts.Replaced executionAttempts attempt
        (finalAttempt pending attempt plan.2.1))
      (he : db.taskEvents.insert? (finalEvent pending task attempt plan) = some taskEvents)
      (ht : db.tasks.Replaced tasks task (finalTask pending task plan.1)) :
      Effect (.prepare pending skipped) db { db with executionAttempts, taskEvents, tasks }
  | actionEnqueued {o : Op} {pending : PendingActionExecutionAdvance} {db : Db}
      {authorization : ActionRiskAuthorization} {task : Task} {attempt : ExecutionAttempt}
      {confirmation : TaskTargetConfirmation} {taskCommands : Relation TaskCommand}
      (h : authorized? db pending.installationId authorization.actionId =
        some (authorization, task, attempt, confirmation))
      (hc : db.taskCommands.insert? (actionCommand pending db authorization confirmation) =
        some taskCommands) : Effect o db { db with taskCommands }
  | authorized {q : AuthorizationRequest} {db : Db} {target : TaskTarget}
      {definition : Definition} {interval : Nat} {taskActions : Relation TaskAction}
      {actionRiskAuthorizations : Relation ActionRiskAuthorization}
      (h : Granted q db target definition interval)
      (hx : db.taskActions.insert? (actionRow q target) = some taskActions)
      (ha : db.actionRiskAuthorizations.insert? (authorizationRow q target interval db) =
        some actionRiskAuthorizations) :
      Effect (.authorize q) db { db with taskActions, actionRiskAuthorizations }

/-! ## The operations make no other change -/

section Operations

variable {db db' : Db}

theorem register_effect {i : InstallationId} {t : Time} {r : Installation}
    (h : register i t db = some (r, db')) : Effect (.register i t) db db' := by
  simp only [register, Option.bind_eq_bind, Option.bind_eq_some_iff, Option.pure_def,
    Option.some.injEq, Prod.mk.injEq] at h
  obtain ⟨rows, hr, -, rfl⟩ := h
  exact .registered hr

theorem revoke_effect {i : InstallationId} {n : Nat} {t : Time} {r : Installation}
    (h : revoke i n t db = some (r, db')) : Effect (.revoke i n t) db db' := by
  simp only [revoke, Option.bind_eq_bind, Option.bind_eq_some_iff, Option.pure_def,
    Option.guard_eq_some', Option.some.injEq, Prod.mk.injEq] at h
  obtain ⟨row, hrow, -, -, rows, hr, -, rfl⟩ := h
  exact .revoked (.of_replace? hr (Relation.mem_of_find? hrow).1)

theorem convergeHealth_effect {p : PendingPlatformSessionHealth} {r : PlatformSessionHealthResult}
    (h : convergeHealth p db = some (r, db')) : Effect (.convergeHealth p) db db' := by
  simp only [convergeHealth, Option.bind_eq_bind, Option.bind_eq_some_iff, Option.pure_def,
    Option.guard_eq_some'] at h
  obtain ⟨-, -, h⟩ := h
  split at h
  · simp only [Option.bind_eq_some_iff, Option.some.injEq, Prod.mk.injEq] at h
    obtain ⟨rows, -, -, rfl⟩ := h
    exact .session
  · split at h
    · simp only [Option.bind_eq_some_iff, Option.some.injEq, Prod.mk.injEq] at h
      obtain ⟨-, -, -, rfl⟩ := h
      exact .same _ _
    · simp only [Option.bind_eq_some_iff, Option.some.injEq, Prod.mk.injEq] at h
      obtain ⟨-, -, rows, -, -, rfl⟩ := h
      exact .session

theorem beginLogout_effect {i : InstallationId} {t : Time} {r : PlatformSessionGate}
    (h : beginLogout i t db = some (r, db')) : Effect (.beginLogout i t) db db' := by
  simp only [beginLogout, Option.bind_eq_bind, Option.bind_eq_some_iff, Option.pure_def,
    Option.guard_eq_some'] at h
  obtain ⟨-, -, h⟩ := h
  split at h
  · cases h
    exact .same _ _
  · simp only [Option.bind_eq_some_iff, Option.some.injEq, Prod.mk.injEq] at h
    obtain ⟨rows, -, -, rfl⟩ := h
    exact .session

theorem create_effect {p : PendingTask} {r : TaskCreationResult}
    (h : create p db = some (r, db')) : Effect (.create p) db db' := by
  simp only [create, Option.bind_eq_bind, Option.bind_eq_some_iff, Option.pure_def,
    Option.guard_eq_some'] at h
  obtain ⟨-, -, h⟩ := h
  split at h
  · simp only [Option.bind_eq_some_iff, Option.some.injEq, Prod.mk.injEq] at h
    obtain ⟨-, -, -, -, -, rfl⟩ := h
    exact .same _ _
  · simp only [Option.bind_eq_some_iff, Option.some.injEq, Prod.mk.injEq] at h
    obtain ⟨-, -, tasks, ht, definitions, hd, -, rfl⟩ := h
    exact .created ht hd

/-! ### The outbox -/

theorem enqueue_effect {command : PendingTaskCommand} {r : TaskCommand}
    (h : enqueue command db = some (r, db')) : Effect (.enqueue command) db db' := by
  simp only [enqueue, Option.bind_eq_bind, Option.bind_eq_some_iff, Option.pure_def,
    Option.guard_eq_some'] at h
  obtain ⟨-, -, -, -, h⟩ := h
  split at h
  · simp only [Option.bind_eq_some_iff, Option.some.injEq, Prod.mk.injEq] at h
    obtain ⟨-, -, -, rfl⟩ := h
    exact .same _ _
  · simp only [Option.bind_eq_some_iff, Option.some.injEq, Prod.mk.injEq] at h
    obtain ⟨-, -, -, -, d, hd, -, rfl⟩ := h
    obtain ⟨-, rows, hr, rfl⟩ := Db.insertCommand_eq_some hd
    exact .enqueued hr

/-- A control that was not sent before. -/
theorem enqueueControl_new {control : PendingTaskControl} {task : Task}
    {attempt : ExecutionAttempt} {inserted : Db} (hc : Controlled control db task attempt)
    (hi : db.insertCommand (controlCommand control attempt.id db) = some inserted)
    (h : projectTermination control task attempt inserted = some db') :
    Effect (.enqueueControl control) db db' := by
  obtain ⟨-, rows, hr, rfl⟩ := Db.insertCommand_eq_some hi
  unfold projectTermination at h
  split at h
  · rename_i hk
    simp only [Option.bind_eq_bind, Option.bind_eq_some_iff, Option.pure_def,
      Option.some.injEq] at h
    obtain ⟨tasks, ht, attempts, ha, rfl⟩ := h
    exact .terminated hc hk hr (.of_replace? ht (Db.task?_eq_some.1 hc.task_eq).1)
      (.of_replace? ha (Db.attempt?_eq_some.1 hc.attempt_eq).1)
  · cases h
    exact .controlled hc hr

theorem enqueueControl_effect {control : PendingTaskControl} {r : TaskControlEnqueueResult}
    (h : enqueueControl control db = some (r, db')) : Effect (.enqueueControl control) db db' := by
  simp only [enqueueControl, Option.bind_eq_bind, Option.bind_eq_some_iff, Option.pure_def,
    Option.guard_eq_some'] at h
  obtain ⟨-, -, h⟩ := h
  split at h
  · simp only [Option.bind_eq_some_iff, Option.some.injEq, Prod.mk.injEq] at h
    obtain ⟨-, -, -, rfl⟩ := h
    exact .same _ _
  · simp only [Option.bind_eq_some_iff, Option.guard_eq_some', Option.some.injEq,
      Prod.mk.injEq] at h
    obtain ⟨task, ht, e, he, attempt, ha, -, hc, -, -, inserted, hi, d, hd, -, rfl⟩ := h
    have hid := (Db.attempt?_eq_some.1 ha).2.1
    rw [← hid] at he ha hi
    exact enqueueControl_new ⟨ht, he, ha, hc⟩ hi hd

theorem Delivered.of_update? {t t' : Relation TaskCommand} {p : TaskCommand → Bool}
    {f : TaskCommand → TaskCommand} (h : t.update? p f = some t')
    (hf : ∀ c, p c = true → CommandMove c (f c)) : Delivered t t' := by
  refine ⟨fun c => if p c then f c else c, Relation.update?_eq_some.1 h, fun c _ => ?_⟩
  by_cases hp : p c = true
  · right
    simpa [hp] using hf c hp
  · left
    simp [hp]

theorem Delivered.of_replace? {t t' : Relation TaskCommand} {c c' : TaskCommand}
    (h : t.replace? c c' = some t') (hm : CommandMove c c') : Delivered t t' := by
  refine Delivered.of_update? h fun x hx => ?_
  rw [of_decide_eq_true hx]
  exact hm

theorem expireDue_effect {i : InstallationId} {now : Time} {n : Nat}
    (h : expireDue i now db = some (n, db')) : Effect (.expireDue i now) db db' := by
  simp only [expireDue, Option.bind_eq_bind, Option.bind_eq_some_iff, Option.pure_def,
    Option.some.injEq, Prod.mk.injEq] at h
  obtain ⟨rows, hr, -, rfl⟩ := h
  refine .delivered rfl (.of_update? hr fun c hc => ⟨?_, rfl, rfl⟩)
  have hs : c.status = .pending ∨ c.status = .inFlight ∨ c.status = .delivered := by
    simp only [isDue, decide_eq_true_eq] at hc
    exact hc.2.1
  rcases hs with hs | hs | hs <;> rw [hs] <;> rfl

theorem live_of_claimable {request : ClaimRequest} {c : TaskCommand} (h : claimable request c) :
    c.status.isTerminal = false := by
  unfold claimable at h
  cases hs : c.status <;> rw [hs] at h <;> first | rfl | exact h.elim

/-- The command `claim_next` returns, as it was. -/
theorem claimNext_eq_some {request : ClaimRequest} {locked : MessageId → Bool}
    {r : Option (TaskCommand × CommandContext)} (h : claimNext request locked db = some (r, db')) :
    (r = none ∧ db' = db) ∨ ∃ current context rows,
      db.taskCommands.least? (isCandidate request locked db) claimOrder = some current ∧
        db.taskCommands.replace? current (claimed request current) = some rows ∧
        r = some (claimed request current, context) ∧ db' = { db with taskCommands := rows } := by
  simp only [claimNext, Option.bind_eq_bind, Option.bind_eq_some_iff, Option.pure_def,
    Option.guard_eq_some'] at h
  obtain ⟨-, -, h⟩ := h
  split at h
  · split at h
    · simp only [Option.some.injEq, Prod.mk.injEq] at h
      exact .inl ⟨h.1.symm, h.2.symm⟩
    · rename_i current hl
      simp only [Option.bind_eq_some_iff, Option.some.injEq, Prod.mk.injEq] at h
      obtain ⟨rows, hr, context, -, hc, rfl⟩ := h
      exact .inr ⟨current, context, rows, hl, hr, hc.symm, rfl⟩
  · simp only [Option.some.injEq, Prod.mk.injEq] at h
    exact .inl ⟨h.1.symm, h.2.symm⟩

theorem claimNext_effect {request : ClaimRequest} {locked : MessageId → Bool}
    {r : Option (TaskCommand × CommandContext)} (h : claimNext request locked db = some (r, db')) :
    Effect (.claimNext request locked) db db' := by
  rcases claimNext_eq_some h with ⟨-, rfl⟩ | ⟨current, context, rows, hl, hr, -, rfl⟩
  · exact .same _ _
  · have hcand := (Relation.least?_eq_some hl).2.1
    simp only [isCandidate, decide_eq_true_eq] at hcand
    exact .delivered rfl (.of_replace? hr ⟨live_of_claimable hcand.2.2.2.1, rfl, rfl⟩)

/-- `mark_delivered` answers the one in-flight row of the expected revision. -/
theorem markDelivered_eq_some {m : MessageId} {n : Nat} {t : Time} {r : TaskCommand}
    (h : markDelivered m n t db = some (r, db')) : ∃ current ∈ db.taskCommands,
      current.messageId = m ∧ current.revision = n ∧ current.status = .inFlight ∧
      t < current.deadlineAt ∧ CommandMove current r ∧ r.status = .delivered ∧
      ∃ rows, db.taskCommands.replace? current r = some rows ∧
        db' = { db with taskCommands := rows } := by
  simp only [markDelivered, Option.bind_eq_bind, Option.bind_eq_some_iff, Option.pure_def,
    Option.guard_eq_some', Option.some.injEq, Prod.mk.injEq] at h
  obtain ⟨current, hc, -, hg, rows, hr, rfl, rfl⟩ := h
  obtain ⟨hmem, hm⟩ := command?_eq_some.1 hc
  exact ⟨current, hmem, hm, hg.1, hg.2.1, hg.2.2.2, ⟨by rw [hg.2.1]; rfl, rfl, rfl⟩, rfl, rows, hr,
    rfl⟩

theorem markDelivered_effect {m : MessageId} {n : Nat} {t : Time} {r : TaskCommand}
    (h : markDelivered m n t db = some (r, db')) : Effect (.markDelivered m n t) db db' := by
  obtain ⟨current, -, -, -, -, -, hm, -, rows, hr, rfl⟩ := markDelivered_eq_some h
  exact .delivered rfl (.of_replace? hr hm)

theorem releaseForRetry_effect {m : MessageId} {n : Nat} {t t' : Time} {r : TaskCommand}
    (h : releaseForRetry m n t t' db = some (r, db')) :
    Effect (.releaseForRetry m n t t') db db' := by
  simp only [releaseForRetry, Option.bind_eq_bind, Option.bind_eq_some_iff, Option.pure_def,
    Option.guard_eq_some', Option.some.injEq, Prod.mk.injEq] at h
  obtain ⟨-, -, current, -, -, hg, rows, hr, -, rfl⟩ := h
  exact .delivered rfl (.of_replace? hr ⟨by rw [hg.2.1]; rfl, rfl, rfl⟩)

theorem acknowledge_effect {response : TaskCommandResponse} {t : Time} {r : TaskCommand}
    (h : acknowledge response t db = some (r, db')) : Effect (.acknowledge response t) db db' := by
  simp only [acknowledge, Option.bind_eq_bind, Option.bind_eq_some_iff, Option.pure_def,
    Option.guard_eq_some'] at h
  obtain ⟨-, -, current, -, -, -, h⟩ := h
  split at h
  · simp only [Option.bind_eq_some_iff, Option.some.injEq, Prod.mk.injEq] at h
    obtain ⟨-, -, -, rfl⟩ := h
    exact .same _ _
  · simp only [Option.bind_eq_some_iff, Option.some.injEq, Prod.mk.injEq] at h
    obtain ⟨-, -, -, rfl⟩ := h
    exact .same _ _
  · cases h
    exact .same _ _
  · cases h
  · cases h
  · rename_i hs
    simp only [Option.bind_eq_some_iff, Option.some.injEq, Prod.mk.injEq] at h
    obtain ⟨rows, hr, -, rfl⟩ := h
    refine .delivered rfl (.of_replace? hr ⟨by rw [hs]; rfl, ?_, ?_⟩) <;> split <;> rfl

/-! ### The executor's events -/

theorem recordActionRiskResult_frame {p : PendingTaskEvent} {opened : Bool}
    (h : recordActionRiskResult p db = some (opened, db')) :
    ∃ actionRiskResults actionFailureCircuits,
      db' = { db with actionRiskResults, actionFailureCircuits } := by
  unfold recordActionRiskResult at h
  split at h
  · cases h
    exact ⟨_, _, rfl⟩
  · split at h
    · cases h
      exact ⟨_, _, rfl⟩
    · simp only [recordResult, Option.bind_eq_bind, Option.bind_eq_some_iff, Option.pure_def,
        Option.some.injEq, Prod.mk.injEq] at h
      obtain ⟨-, -, -, -, -, -, results, -, circuits, -, -, rfl⟩ := h
      exact ⟨_, _, rfl⟩

theorem clearOwnedFailureCircuit_frame {p : PendingTaskEvent}
    (h : clearOwnedFailureCircuit p db = some db') :
    ∃ actionFailureCircuits, db' = { db with actionFailureCircuits } := by
  unfold clearOwnedFailureCircuit at h
  split at h
  · split at h
    · cases h
      exact ⟨_, rfl⟩
    · simp only [Option.bind_eq_bind, Option.bind_eq_some_iff, Option.pure_def,
        Option.some.injEq] at h
      obtain ⟨-, -, circuits, -, rfl⟩ := h
      exact ⟨_, rfl⟩
  · cases h
    exact ⟨_, rfl⟩

theorem projectAttempt_replaced {p : PendingTaskEvent} {attempt : ExecutionAttempt}
    {status : ExecutionAttemptStatus} {t t' : Relation ExecutionAttempt}
    (h : projectAttempt p attempt status t = some t') (hm : attempt ∈ t) :
    t.Replaced t' attempt (projectedAttempt p attempt status) := by
  unfold projectAttempt at h
  unfold projectedAttempt
  split at h
  · rename_i hs
    cases h
    rw [if_pos hs]
    exact .refl hm
  · rename_i hs
    rw [if_neg hs]
    exact .of_replace? h hm

theorem actionMove?_eq_some {p : PendingTaskEvent} {a : ActionId} {m : ActionMove}
    (h : actionMove? db p a = some m) :
    (m.row ∈ db.taskActions ∧ m.row.id = a ∧
      m.row.executionAttemptId = p.message.executionAttemptId ∧
      m.row.taskId = p.message.taskId ∧ m.row.installationId = p.message.installationId) ∧
      validateAction m.row p = some (m.status, m.outcome) := by
  simp only [actionMove?, Option.bind_eq_bind, Option.bind_eq_some_iff, Option.pure_def,
    Option.guard_eq_some', Option.some.injEq] at h
  obtain ⟨row, hrow, -, -, ⟨status, outcome⟩, hv, rfl⟩ := h
  obtain ⟨hmem, hkey⟩ := Relation.mem_of_find? hrow
  exact ⟨⟨hmem, of_decide_eq_true hkey⟩, hv⟩

theorem namedAction_eq_some {p : PendingTaskEvent} {m : ActionMove}
    (h : namedAction db p = some (some m)) :
    ∃ a, p.action.actionId = some a ∧ actionMove? db p a = some m := by
  unfold namedAction at h
  split at h
  · cases h
  · rename_i a ha
    simp only [Option.map_eq_some_iff, Option.some.injEq] at h
    obtain ⟨m', hm, rfl⟩ := h
    exact ⟨a, ha, hm⟩

theorem projectAction_projected {p : PendingTaskEvent} {action : Option ActionMove}
    {t' : Relation TaskAction} (h : projectAction p db.taskActions action = some t')
    (hn : namedAction db p = some action) : ActionsProjected p db.taskActions t' action := by
  unfold ActionsProjected
  cases action with
  | none => exact (Option.some.inj h).symm
  | some m =>
    obtain ⟨a, -, hm⟩ := namedAction_eq_some hn
    have hmem := (actionMove?_eq_some hm).1.1
    dsimp only [projectAction] at h
    dsimp only [projectedAction]
    split at h
    · rename_i hs
      cases h
      rw [if_pos hs]
      exact .refl hmem
    · rename_i hs
      rw [if_neg hs]
      exact .of_replace? h hmem

/-- An event the server had not seen, and the row it returns. -/
def Projects (p : PendingTaskEvent) (db : Db) (task : Task) (snapshot : Task) (db' : Db) : Prop :=
  ∃ attempt action opened j actionRiskResults actionFailureCircuits executionAttempts taskActions
      taskEvents tasks,
    Converged p db task attempt action opened j ∧
    RiskStep p db opened actionRiskResults actionFailureCircuits ∧
    db.executionAttempts.Replaced executionAttempts attempt
      (projectedAttempt p attempt j.attemptStatus) ∧
    ActionsProjected p db.taskActions taskActions action ∧
    db.taskEvents.insert? (eventRow p j task) = some taskEvents ∧
    db.tasks.Replaced tasks task (movedTask p j task) ∧ snapshot = movedTask p j task ∧
    db' =
      { db with
        actionRiskResults, actionFailureCircuits, executionAttempts, taskActions, taskEvents,
        tasks }

theorem project_eq_some {p : PendingTaskEvent} {task snapshot : Task}
    (ht : db.task? p.message.taskId p.message.installationId = some task)
    (hcur : task.currentAttemptId = some p.message.executionAttemptId)
    (h : project p task db = some (snapshot, db')) : Projects p db task snapshot db' := by
  simp only [project, Option.bind_eq_bind, Option.bind_eq_some_iff, Option.pure_def,
    Option.guard_eq_some', Option.some.injEq, Prod.mk.injEq] at h
  obtain ⟨-, hseq, -, -, attempt, ha, -, -, -, -, action, hn, ⟨opened, recorded⟩, hr, j, hj,
    cleared, hc, attempts, hattempts, actions, hactions, events, hevents, tasks, htasks, rfl,
    rfl⟩ := h
  obtain ⟨results, circuits, rfl⟩ := recordActionRiskResult_frame hr
  obtain ⟨circuits', rfl⟩ := clearOwnedFailureCircuit_frame hc
  exact ⟨attempt, action, opened, j, results, circuits', attempts, actions, events, tasks,
    ⟨ht, hcur, ha, hseq, hn, hj⟩, ⟨_, hr, hc⟩,
    projectAttempt_replaced hattempts (Db.attempt?_eq_some.1 ha).1,
    projectAction_projected hactions hn, hevents,
    .of_replace? htasks (Db.task?_eq_some.1 ht).1, rfl, rfl⟩

/-- The stored events a message repeats. -/
def seenBefore (db : Db) (m : Outbound) : Prop :=
  ¬(db.eventByMessage? m.installationId m.messageId = none ∧
    db.eventByKey? m.installationId m.idempotencyKey = none)

/-- What `receive` answers: a new event is projected, a repeated one changes nothing. -/
theorem receive_eq_some {m : Outbound} {t : Time} {r : TaskEventConvergenceResult}
    (h : receive m t db = some (r, db')) :
    ∃ p task, pending? m t = some p ∧ p.message = m ∧
      db.task? m.taskId m.installationId = some task ∧
      task.currentAttemptId = some m.executionAttemptId ∧
      ((r.duplicate = false ∧ ¬seenBefore db m ∧ Projects p db task r.snapshot db') ∨
        (r = ⟨task, true⟩ ∧ seenBefore db m ∧ db' = db)) := by
  simp only [receive, Option.bind_eq_bind, Option.bind_eq_some_iff] at h
  obtain ⟨p, hp, h⟩ := h
  have hm : p.message = m := by
    unfold pending? at hp
    split at hp
    · simp only [Option.bind_eq_bind, Option.bind_eq_some_iff, Option.pure_def,
        Option.some.injEq] at hp
      obtain ⟨-, -, _, -, rfl⟩ := hp
      rfl
    · cases hp
  simp only [TaskEventConvergenceRepository.converge, Option.bind_eq_bind, Option.bind_eq_some_iff, Option.pure_def,
    Option.guard_eq_some'] at h
  obtain ⟨-, -, task, ht, -, hcur, h⟩ := h
  refine ⟨p, task, hp, hm, hm ▸ ht, hm ▸ hcur, ?_⟩
  split at h
  · rename_i hnone
    simp only [Option.bind_eq_some_iff, Option.some.injEq, Prod.mk.injEq] at h
    obtain ⟨⟨snapshot, d⟩, hproj, rfl, rfl⟩ := h
    rw [hm] at hnone
    exact .inl ⟨rfl, not_not_intro hnone, project_eq_some ht hcur hproj⟩
  · rename_i hsome
    simp only [Option.bind_eq_some_iff, Option.some.injEq, Prod.mk.injEq] at h
    obtain ⟨-, -, rfl, rfl⟩ := h
    rw [hm] at hsome
    exact .inr ⟨rfl, hsome, rfl⟩

theorem receive_effect {m : Outbound} {t : Time} {r : TaskEventConvergenceResult}
    (h : receive m t db = some (r, db')) : Effect (.receive m t) db db' := by
  obtain ⟨p, task, hp, -, -, -, ⟨-, -, hproj⟩ | ⟨-, -, rfl⟩⟩ := receive_eq_some h
  · obtain ⟨attempt, action, opened, j, _, _, _, _, _, _, hc, hr, ha, hx, he, ht, -, rfl⟩ := hproj
    exact .converged hp hc hr ha hx he ht
  · exact .same _ _

/-! ### Discovery -/

theorem start_effect {pending : PendingTaskDiscovery} {r : TaskDiscoveryStartResult}
    (h : start pending db = .ok (r, db')) : Effect (.startDiscovery pending) db db' := by
  unfold start at h
  split at h
  · split at h
    · split at h
      · split at h
        · cases h
          exact .same _ _
        · cases h
      · cases h
    · split at h
      · cases h
      · rename_i hidle
        split at h
        · cases h
        · rename_i task ht
          split at h
          · rename_i hg
            split at h
            · rename_i d hb
              cases h
              simp only [begin, Option.bind_eq_bind, Option.bind_eq_some_iff, Option.pure_def,
                Option.some.injEq] at hb
              obtain ⟨attempts, ha, inserted, hi, events, he, tasks, htasks, rfl⟩ := hb
              obtain ⟨-, commands, hc, rfl⟩ := Db.insertCommand_eq_some hi
              exact .discoveryStarted ⟨ht, hg.2.1, hidle⟩ ha hc he
                (.of_replace? htasks (Db.task?_eq_some.1 ht).1)
            · cases h
          · cases h
  · cases h

theorem mem_rowsOf {t : TaskId} {i : InstallationId} {evaluatedAt : Time} {ids : Nat → TargetId}
    {n : Nat} {ds : List DouyinCandidateDecision} {r : TaskTarget}
    (h : r ∈ rowsOf t i evaluatedAt ids n ds) : r.taskId = t ∧ r.installationId = i := by
  induction ds generalizing n with
  | nil => cases h
  | cons d ds ih =>
    rcases List.mem_cons.1 h with rfl | h
    · exact ⟨rfl, rfl⟩
    · exact ih h

theorem PreviewReplaced.refl (db : Db) (t : TaskId) (i : InstallationId) :
    PreviewReplaced db t i db.taskTargets db.taskTargetExclusions db.taskTargetConfirmations where
  targets_iff _ _ := Iff.rfl
  exclusions_iff _ _ := Iff.rfl
  confirmations_iff _ _ := Iff.rfl
  confirmations_mem _ h := h

theorem deleteTargets_replaced {t : TaskId} {i : InstallationId}
    (h : deleteTargets db t i = some db') :
    ∃ taskTargets taskTargetExclusions taskTargetConfirmations,
      db' = { db with taskTargets, taskTargetExclusions, taskTargetConfirmations } ∧
      PreviewReplaced db t i taskTargets taskTargetExclusions taskTargetConfirmations := by
  simp only [deleteTargets, Option.bind_eq_bind, Option.bind_eq_some_iff, Option.pure_def,
    Option.some.injEq] at h
  obtain ⟨-, -, rfl⟩ := h
  refine ⟨_, _, _, rfl, fun r hr => ?_, fun x hx => ?_, fun c hc => ?_, fun c hc => ?_⟩
  · rw [Relation.mem_deleteWhere, decide_eq_false hr]
    simp
  · rw [Relation.mem_deleteWhere, decide_eq_false hx]
    simp
  · rw [Relation.mem_deleteWhere, decide_eq_false hc]
    simp
  · exact (Relation.mem_deleteWhere.1 hc).1

theorem evaluateAndReplace_replaced {t : TaskId} {i : InstallationId}
    {candidates : List DouyinCandidate} {blacklist : List DouyinCandidateKey} {evaluatedAt : Time}
    {ids : Nat → TargetId}
    (h : evaluateAndReplace t i candidates blacklist evaluatedAt ids db = some db') :
    ∃ taskTargets taskTargetExclusions taskTargetConfirmations,
      db' = { db with taskTargets, taskTargetExclusions, taskTargetConfirmations } ∧
      PreviewReplaced db t i taskTargets taskTargetExclusions taskTargetConfirmations := by
  simp only [evaluateAndReplace, Option.bind_eq_bind, Option.bind_eq_some_iff, Option.pure_def,
    Option.some.injEq] at h
  obtain ⟨-, -, -, -, -, -, parent, -, -, -, -, -, evaluation, -, cleared, hcl, targets, hins,
    rfl⟩ := h
  have hcleared : ∃ taskTargets taskTargetExclusions taskTargetConfirmations,
      cleared = { db with taskTargets, taskTargetExclusions, taskTargetConfirmations } ∧
      PreviewReplaced db t i taskTargets taskTargetExclusions taskTargetConfirmations := by
    unfold clearTargets at hcl
    split at hcl
    · cases hcl
      exact ⟨_, _, _, rfl, .refl db t i⟩
    · exact deleteTargets_replaced hcl
  obtain ⟨targets', exclusions, confirmations, rfl, hp⟩ := hcleared
  refine ⟨_, _, _, rfl, fun r hr => ?_, hp.exclusions_iff, hp.confirmations_iff,
    hp.confirmations_mem⟩
  rw [Relation.mem_insertAll? hins, ← hp.targets_iff r hr]
  constructor
  · rintro (h | h)
    · exact h
    · exact absurd (mem_rowsOf h) hr
  · exact .inl

theorem replacePreview_replaced {m : Outbound} {candidates : Option (List DouyinCandidate)}
    {receivedAt : Time} {ids : Nat → TargetId}
    (h : replacePreview m candidates receivedAt ids db = some db') :
    ∃ taskTargets taskTargetExclusions taskTargetConfirmations,
      db' = { db with taskTargets, taskTargetExclusions, taskTargetConfirmations } ∧
      PreviewReplaced db m.taskId m.installationId taskTargets taskTargetExclusions
        taskTargetConfirmations := by
  unfold replacePreview at h
  split at h
  · exact evaluateAndReplace_replaced h
  · cases h
    exact ⟨_, _, _, rfl, .refl _ _ _⟩

theorem requireActiveAttempt_eq_some {m : Outbound} {pageRevision : Nat} {task : Task}
    {attempt : ExecutionAttempt}
    (h : requireActiveAttempt m pageRevision db = some (task, attempt)) :
    db.task? m.taskId m.installationId = some task ∧
      db.attempt? m.executionAttemptId m.taskId m.installationId = some attempt ∧
      task.currentAttemptId = some m.executionAttemptId ∧ task.status = .discoveringTargets ∧
      isActiveDiscovery attempt.status = true := by
  simp only [requireActiveAttempt, Option.bind_eq_bind, Option.bind_eq_some_iff, Option.pure_def,
    Option.guard_eq_some', Option.some.injEq, Prod.mk.injEq] at h
  obtain ⟨task, ht, attempt, ha, -, hg, rfl, rfl⟩ := h
  exact ⟨ht, ha, hg.1, hg.2.1, hg.2.2.1⟩

theorem receiveCompleted_effect {r : DiscoveryReport} {candidates : Option (List DouyinCandidate)}
    {t : Time} {ids : Nat → TargetId} {result : TaskDiscoveryConvergenceResult}
    (h : receiveCompleted r candidates t ids db = some (result, db')) :
    Effect (.receiveCompleted r candidates t ids) db db' := by
  simp only [receiveCompleted, Option.bind_eq_bind, Option.bind_eq_some_iff] at h
  obtain ⟨-, -, h⟩ := h
  unfold TaskDiscoveryRepository.converge at h
  split at h
  · simp only [Option.bind_eq_bind, Option.bind_eq_some_iff, Option.pure_def, Option.some.injEq,
      Prod.mk.injEq] at h
    obtain ⟨⟨task, attempt⟩, hact, -, -, -, -, d, hrec, -, rfl⟩ := h
    simp only [record, Option.bind_eq_bind, Option.bind_eq_some_iff, Option.pure_def,
      Option.some.injEq] at hrec
    obtain ⟨replaced, hv, -, -, attempts, ha, events, he, tasks, ht, rfl⟩ := hrec
    obtain ⟨targets, exclusions, confirmations, rfl, hp⟩ := replacePreview_replaced hv
    obtain ⟨htask, hattempt, -, -, -⟩ := requireActiveAttempt_eq_some hact
    exact .discoveryReported hact hp (.of_replace? ha (Db.attempt?_eq_some.1 hattempt).1) he
      (.of_replace? ht (Db.task?_eq_some.1 htask).1)
  · simp only [Option.bind_eq_bind, Option.bind_eq_some_iff, Option.pure_def, Option.some.injEq,
      Prod.mk.injEq] at h
    obtain ⟨-, -, -, -, -, -, -, -, -, rfl⟩ := h
    exact .same _ _
  · cases h

/-! ### The user's selection -/

theorem appendPreviewEvent_eq_some {e : PreviewEvent} {task : Task}
    (h : appendPreviewEvent e task db = some db') (hm : task ∈ db.tasks) : ∃ taskEvents tasks,
      db.taskEvents.insert? (e.row task) = some taskEvents ∧
      db.tasks.Replaced tasks task (e.move task) ∧ db' = { db with taskEvents, tasks } := by
  simp only [appendPreviewEvent, Option.bind_eq_bind, Option.bind_eq_some_iff, Option.pure_def,
    Option.some.injEq] at h
  obtain ⟨-, -, -, -, events, he, tasks, ht, rfl⟩ := h
  exact ⟨events, tasks, he, .of_replace? ht hm, rfl⟩

theorem replaceExclusions_effect {pending : PendingTaskTargetExclusions}
    {r : TaskTargetPreviewMutationResult} (h : replaceExclusions pending db = some (r, db')) :
    Effect (.replaceExclusions pending) db db' := by
  simp only [replaceExclusions, Option.bind_eq_bind, Option.bind_eq_some_iff, Option.pure_def,
    Option.guard_eq_some'] at h
  obtain ⟨-, -, task, ht, -, hs, -, -, -, -, replay, -, h⟩ := h
  split at h
  · simp only [Option.bind_eq_some_iff, Option.some.injEq, Prod.mk.injEq] at h
    obtain ⟨-, -, -, -, -, rfl⟩ := h
    exact .same _ _
  · simp only [Option.bind_eq_some_iff, Option.some.injEq, Prod.mk.injEq] at h
    obtain ⟨-, -, -, -, -, -, exclusions, hx, d, hd, -, -, -, rfl⟩ := h
    obtain ⟨events, tasks, he, htasks, rfl⟩ :=
      appendPreviewEvent_eq_some hd (Db.task?_eq_some.1 ht).1
    refine .exclusionsReplaced ht hs (fun x hne => ?_) he htasks
    rw [Relation.mem_insertAll? hx, Relation.mem_deleteWhere]
    have hne' : ¬(x.taskId = pending.taskId ∧ x.installationId = pending.installationId ∧
        x.pageRevision = pending.pageRevision) := fun hk => hne ⟨hk.1, hk.2.1⟩
    constructor
    · rintro (h | h)
      · exact h.1
      · obtain ⟨y, -, rfl⟩ := List.mem_map.1 h
        exact absurd ⟨rfl, rfl⟩ hne
    · exact fun h => .inl ⟨h, decide_eq_false hne'⟩

theorem confirm_effect {pending : PendingTaskTargetConfirmation}
    {r : TaskTargetPreviewMutationResult} (h : confirm pending db = some (r, db')) :
    Effect (.confirm pending) db db' := by
  simp only [confirm, Option.bind_eq_bind, Option.bind_eq_some_iff, Option.pure_def,
    Option.guard_eq_some'] at h
  obtain ⟨-, -, task, ht, replay, -, h⟩ := h
  split at h
  · simp only [Option.bind_eq_some_iff, Option.some.injEq, Prod.mk.injEq] at h
    obtain ⟨-, -, -, -, -, rfl⟩ := h
    exact .same _ _
  · simp only [Option.bind_eq_some_iff, Option.guard_eq_some', Option.some.injEq,
      Prod.mk.injEq] at h
    obtain ⟨-, hs, -, -, -, -, definition, -, intent, -, confirmations, hv, d, hd, -, -, -, rfl⟩ := h
    obtain ⟨events, tasks, he, htasks, rfl⟩ :=
      appendPreviewEvent_eq_some hd (Db.task?_eq_some.1 ht).1
    exact .confirmed ht hs.1 hv he htasks

/-! ### Progression -/

theorem authorize_eq_ok {q : AuthorizationRequest} {a : ActionRiskAuthorization}
    (h : authorize q db = .ok (a, db')) :
    (authorization? db q.actionId = some a ∧ sameIntent a q ∧ db' = db) ∨
      ∃ target definition interval taskActions actionRiskAuthorizations,
        Granted q db target definition interval ∧
        db.taskActions.insert? (actionRow q target) = some taskActions ∧
        db.actionRiskAuthorizations.insert? (authorizationRow q target interval db) =
          some actionRiskAuthorizations ∧
        a = authorizationRow q target interval db ∧
        db' = { db with taskActions, actionRiskAuthorizations } := by
  unfold authorize at h
  split at h
  · rename_i hg
    split at h
    · rename_i existing hex
      split at h
      · rename_i hs
        cases h
        exact .inl ⟨hex, hs, rfl⟩
      · cases h
    · rename_i hfresh
      unfold authorizeNew at h
      split at h
      · cases h
      · split at h
        · cases h
        · rename_i definition target hadmit
          split at h
          · cases h
          · rename_i interval hlim
            split at h
            · cases h
            · rename_i d hgrant
              cases h
              simp only [grant, Option.bind_eq_bind, Option.bind_eq_some_iff, Option.pure_def,
                Option.some.injEq] at hgrant
              obtain ⟨actions, hx, auths, ha, rfl⟩ := hgrant
              exact .inr ⟨target, definition, interval, actions, auths,
                ⟨hg.1, hg.2, hfresh, hadmit, hlim⟩, hx, ha, rfl, rfl⟩
  · cases h

theorem authorize_effect {q : AuthorizationRequest} {a : ActionRiskAuthorization}
    (h : authorize q db = .ok (a, db')) : Effect (.authorize q) db db' := by
  rcases authorize_eq_ok h with ⟨-, -, rfl⟩ | ⟨_, _, _, _, _, hg, hx, ha, -, rfl⟩
  · exact .same _ _
  · exact .authorized hg hx ha

theorem commit_eq_ok {α : Type} {a b : α} {x : Option Db} (h : commit a x = .ok (b, db')) :
    b = a ∧ x = some db' := by
  cases x with
  | none => cases h
  | some d =>
    cases h
    exact ⟨rfl, rfl⟩

theorem enqueueAuthorizedLocked_effect (o : Op) {pending : PendingActionExecutionAdvance}
    {a : ActionId} {k : ActionExecutionAdvanceKind}
    (h : enqueueAuthorizedLocked pending a db = .ok (k, db')) : Effect o db db' := by
  unfold enqueueAuthorizedLocked at h
  split at h
  · cases h
    exact .same _ _
  · split at h
    · cases h
    · rename_i authorization task attempt confirmation hauth
      split at h
      · obtain ⟨-, hi⟩ := commit_eq_ok h
        obtain ⟨-, rows, hr, rfl⟩ := Db.insertCommand_eq_some hi
        have ha : authorization.actionId = a := by
          simp only [authorized?, Option.bind_eq_bind, Option.bind_eq_some_iff, Option.pure_def,
            Option.some.injEq, Prod.mk.injEq] at hauth
          obtain ⟨x, hx, -, -, -, -, -, -, rfl, -⟩ := hauth
          exact (of_decide_eq_true (Relation.mem_of_find? hx).2).1
        rw [← ha] at hauth
        exact .actionEnqueued hauth hr
      · cases h

theorem enqueueAuthorized_effect {pending : PendingActionExecutionAdvance} {a : ActionId}
    {k : ActionExecutionAdvanceKind} (h : enqueueAuthorized pending a db = .ok (k, db')) :
    Effect (.enqueueAuthorized pending a) db db' := by
  unfold enqueueAuthorized at h
  split at h
  · exact enqueueAuthorizedLocked_effect _ h
  · cases h

theorem offerNextConfirmedLocked_effect {pending : PendingActionExecutionAdvance}
    {skipped : TaskId → Bool} {r : Prepared}
    (h : offerNextConfirmedLocked pending skipped db = .ok (r, db')) :
    Effect (.prepare pending skipped) db db' := by
  unfold offerNextConfirmedLocked at h
  split at h
  · cases h
    exact .same _ _
  · rename_i task hl
    split at h
    · cases h
      exact .same _ _
    · rename_i confirmation hc
      obtain ⟨-, ho⟩ := commit_eq_ok h
      obtain ⟨hmem, hof, -⟩ := Relation.least?_eq_some hl
      simp only [offerable, decide_eq_true_eq] at hof
      simp only [offer, Option.bind_eq_bind, Option.bind_eq_some_iff, Option.pure_def,
        Option.some.injEq] at ho
      obtain ⟨attempts, ha, inserted, hi, tasks, ht, rfl⟩ := ho
      obtain ⟨-, commands, hcmd, rfl⟩ := Db.insertCommand_eq_some hi
      exact .offered ⟨hmem, hof.1, hof.2.1, hof.2.2.1, hc⟩ ha hcmd (.of_replace? ht hmem)

theorem finalizeCompletedTaskLocked_effect {pending : PendingActionExecutionAdvance}
    {skipped : TaskId → Bool} {task : Task} {attempt : ExecutionAttempt} {n : Nat} {r : Prepared}
    (ht : db.task? attempt.taskId pending.installationId = some task)
    (ha : attempt ∈ db.executionAttempts) (hi : attempt.installationId = pending.installationId)
    (hc : task.currentAttemptId = some attempt.id) (hs : task.status = .running)
    (hover : ∀ a ∈ db.taskActions, a.executionAttemptId = attempt.id → a.status.isTerminal = true)
    (h : finalizeCompletedTaskLocked pending task attempt n db = .ok (r, db')) :
    Effect (.prepare pending skipped) db db' := by
  unfold finalizeCompletedTaskLocked at h
  dsimp only at h
  split at h
  · cases h
  · split at h
    · cases h
      exact .same _ _
    · split at h
      · obtain ⟨-, hf⟩ := commit_eq_ok h
        simp only [finish, Option.bind_eq_bind, Option.bind_eq_some_iff, Option.pure_def,
          Option.some.injEq] at hf
        obtain ⟨events, he, attempts, hattempts, tasks, htasks, rfl⟩ := hf
        exact .finished ⟨ht, ha, hi, hc, hs, hover, _, rfl⟩ (.of_replace? hattempts ha) he
          (.of_replace? htasks (Db.task?_eq_some.1 ht).1)
      · cases h

theorem mem_actionsOf {e : ExecutionAttemptId} {a : TaskAction} :
    a ∈ actionsOf db e ↔ a ∈ db.taskActions ∧ a.executionAttemptId = e := by
  simp [actionsOf, Relation.mem_def]

theorem activeAttempt?_eq_some {i : InstallationId} {attempt : ExecutionAttempt} :
    activeAttempt? db i = some attempt ↔ attempt ∈ db.executionAttempts ∧
      attempt.installationId = i ∧ attempt.status.isTerminal = false :=
  Relation.find?_key_iff fun _ _ ha hb hab => hab.2.2 ⟨ha.1.trans hb.1.symm, ha.2, hb.2⟩

/-- What an authorization decision of `_prepare` was made on. -/
structure Decided (pending : PendingActionExecutionAdvance) (db : Db) (n : NextAuthorization)
    (task : Task) (attempt : ExecutionAttempt) (definition : Definition)
    (confirmation : TaskTargetConfirmation) (target : TaskTarget) : Prop where
  attempt_eq : activeAttempt? db pending.installationId = some attempt
  task_eq : db.task? attempt.taskId pending.installationId = some task
  status : task.status = .running
  current : task.currentAttemptId = some attempt.id
  settled : ∀ a ∈ db.taskActions, a.executionAttemptId = attempt.id → a.status.isTerminal = true
  definition_eq : db.definition? task.id pending.installationId = some definition
  confirmation_eq : db.confirmation? task.id pending.installationId = some confirmation
  target_eq : nextTarget? db task.id pending.installationId confirmation.pageRevision = some target
  next_eq : n = ⟨task.id, attempt.id, target.id, definition.action⟩

/-- What preparing a running attempt ends with. -/
theorem prepareRunning_eq_ok {pending : PendingActionExecutionAdvance} (skipped : TaskId → Bool)
    {attempt : ExecutionAttempt} {r : Prepared}
    (hattempt : activeAttempt? db pending.installationId = some attempt)
    (h : prepareRunning pending attempt db = .ok (r, db')) :
    Effect (.prepare pending skipped) db db' ∧ ∀ n, r = .next n → db' = db ∧
      ∃ task definition confirmation target,
        Decided pending db n task attempt definition confirmation target := by
  have hmem := (activeAttempt?_eq_some.1 hattempt)
  unfold prepareRunning at h
  split at h
  · cases h
    exact ⟨.same _ _, nofun⟩
  · rename_i task ht
    split at h
    · rename_i hg
      have hover : ∀ a ∈ db.taskActions, a.executionAttemptId = attempt.id →
          a.status.isTerminal = true := fun a ha he => hg.2.2 a (mem_actionsOf.2 ⟨ha, he⟩)
      split at h
      · rename_i definition confirmation hd hc
        split at h
        · rename_i target htarget
          cases h
          refine ⟨.same _ _, fun n hn => ⟨rfl, task, definition, confirmation, target, ?_⟩⟩
          cases hn
          exact ⟨hattempt, ht, hg.1, hg.2.1, hover, hd, hc, htarget, rfl⟩
        · refine ⟨finalizeCompletedTaskLocked_effect ht hmem.1 hmem.2.1 hg.2.1 hg.1 hover h, ?_⟩
          rintro n rfl
          unfold finalizeCompletedTaskLocked at h
          dsimp only at h
          split at h
          · cases h
          · split at h
            · cases h
            · split at h
              · cases (commit_eq_ok h).1
              · cases h
      · cases h
        exact ⟨.same _ _, nofun⟩
    · cases h
      exact ⟨.same _ _, nofun⟩

/-- What preparing ends with: a change, or a decision made on the state as it is. -/
theorem prepare_eq_ok {pending : PendingActionExecutionAdvance} {skipped : TaskId → Bool}
    {r : Prepared} (h : prepare pending skipped db = .ok (r, db')) :
    Effect (.prepare pending skipped) db db' ∧ ∀ n, r = .next n → db' = db ∧
      ∃ task attempt definition confirmation target,
        Decided pending db n task attempt definition confirmation target := by
  unfold prepare at h
  split at h
  · split at h
    · split at h
      · rename_i k d hk
        cases h
        exact ⟨enqueueAuthorizedLocked_effect _ hk, nofun⟩
      · cases h
    · split at h
      · refine ⟨offerNextConfirmedLocked_effect h, ?_⟩
        rintro n rfl
        unfold offerNextConfirmedLocked at h
        split at h
        · cases h
        · split at h
          · cases h
          · cases (commit_eq_ok h).1
      · rename_i attempt hattempt
        split at h
        · obtain ⟨heff, hdec⟩ := prepareRunning_eq_ok skipped hattempt h
          refine ⟨heff, fun n hn => ?_⟩
          obtain ⟨hsame, task, definition, confirmation, target, hd⟩ := hdec n hn
          exact ⟨hsame, task, attempt, definition, confirmation, target, hd⟩
        · cases h
          exact ⟨.same _ _, nofun⟩
  · cases h
    exact ⟨.same _ _, nofun⟩

end Operations

section Exec

variable {α ε : Type} {o : Op} {db db' : Db}

theorem atomic_effect {x : Option (α × Db)} {a : Option α} (h : db.atomic x = (a, db'))
    (he : ∀ b, x = some (b, db') → Effect o db db') : Effect o db db' := by
  rcases Db.atomic_eq h with ⟨-, rfl⟩ | ⟨b, -, hx⟩
  · exact .same _ _
  · exact he b hx

theorem atomicExcept_effect {x : Except ε (α × Db)} {a : Except ε α}
    (h : db.atomicExcept x = (a, db')) (he : ∀ b, x = .ok (b, db') → Effect o db db') :
    Effect o db db' := by
  rcases Db.atomicExcept_eq h with ⟨-, -, rfl⟩ | ⟨b, -, hx⟩
  · exact .same _ _
  · exact he b hx

end Exec

/-- Every operation has one of the effects listed. -/
theorem exec_effect (o : Op) (db : Db) : Effect o db (exec o db).2 := by
  cases o with
  | register => exact atomic_effect rfl fun _ => register_effect
  | revoke => exact atomic_effect rfl fun _ => revoke_effect
  | convergeHealth => exact atomic_effect rfl fun _ => convergeHealth_effect
  | beginLogout => exact atomic_effect rfl fun _ => beginLogout_effect
  | create => exact atomic_effect rfl fun _ => create_effect
  | enqueue => exact atomic_effect rfl fun _ => enqueue_effect
  | enqueueControl => exact atomic_effect rfl fun _ => enqueueControl_effect
  | expireDue => exact atomic_effect rfl fun _ => expireDue_effect
  | claimNext => exact atomic_effect rfl fun _ => claimNext_effect
  | markDelivered => exact atomic_effect rfl fun _ => markDelivered_effect
  | releaseForRetry => exact atomic_effect rfl fun _ => releaseForRetry_effect
  | acknowledge => exact atomic_effect rfl fun _ => acknowledge_effect
  | receive => exact atomic_effect rfl fun _ => receive_effect
  | startDiscovery => exact atomicExcept_effect rfl fun _ => start_effect
  | receiveCompleted => exact atomic_effect rfl fun _ => receiveCompleted_effect
  | replaceExclusions => exact atomic_effect rfl fun _ => replaceExclusions_effect
  | confirm => exact atomic_effect rfl fun _ => confirm_effect
  | prepare => exact atomicExcept_effect rfl fun _ h => (prepare_eq_ok h).1
  | authorize => exact atomicExcept_effect rfl fun _ => authorize_effect
  | enqueueAuthorized => exact atomicExcept_effect rfl fun _ => enqueueAuthorized_effect

/-- A predicate every effect keeps holds in every reachable state. -/
theorem effect_inductive {P : Db → Prop} (h0 : P Db.empty)
    (h1 : ∀ o db db', P db → Effect o db db' → P db') : system.Inductive P :=
  calls_inductive (fun _ h => h ▸ h0) fun o db hp _ => h1 o db _ hp (exec_effect o db)

end AutomationTool.ControlPlane
