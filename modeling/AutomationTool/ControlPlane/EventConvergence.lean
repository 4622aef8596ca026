import AutomationTool.ControlPlane.TaskCommands

/-!
# Convergence of executor events

One task event of the executor, validated (`receive`) and then projected in one
transaction (`converge`): onto the task, its attempt, the action it names, the failure
circuit of the action's scope, and the timeline.
mirrors control_plane/application/task_event_convergence.py and
control_plane/infrastructure/database/task_event_convergence_repository.py
-/
namespace AutomationTool.ControlPlane

open Protocol

namespace TaskEventConvergence

/-- `_EventPlan`. -/
structure EventPlan where
  eventType : TaskEventType
  taskStatus : Option TaskStatus
  attemptStatus : Option ExecutionAttemptStatus
  deriving DecidableEq

/-- `_EVENT_PLANS`. mirrors task_event_convergence.py:60-119 -/
def eventPlan : Protocol.TaskEventType → EventPlan
  | .taskStarted => ⟨.taskStarted, some .running, some .running⟩
  | .stepStarted => ⟨.stepStarted, none, none⟩
  | .stepProgress => ⟨.stepProgress, none, none⟩
  | .stepCompleted => ⟨.stepCompleted, none, none⟩
  | .stepFailed => ⟨.stepFailed, none, none⟩
  | .sessionLoginRequired =>
    ⟨.taskAwaitingPlatformLogin, some .awaitingPlatformLogin, some .awaitingHuman⟩
  | .handoffRequested => ⟨.taskAwaitingHuman, some .awaitingHuman, some .awaitingHuman⟩
  | .taskPaused => ⟨.taskPaused, some .paused, some .paused⟩
  | .taskResumed => ⟨.taskResumed, some .running, some .running⟩
  | .taskCancelled => ⟨.taskCancelled, some .cancelled, some .cancelled⟩
  | .taskCompleted => ⟨.taskCompleted, some .succeeded, some .succeeded⟩
  | .taskPartiallyCompleted =>
    ⟨.taskPartiallyCompleted, some .partiallySucceeded, some .partiallySucceeded⟩
  | .taskFailed => ⟨.taskFailed, some .failed, some .failed⟩
  | .taskOutcomeUncertain =>
    ⟨.taskOutcomeUncertain, some .outcomeUncertain, some .outcomeUncertain⟩

/-- What `_action_plan` makes of the payload. -/
structure ActionPlan where
  actionId : Option ActionId := none
  status : Option ActionStatus := none
  outcome : Option ActionOutcome := none
  evidence : Option ActionResultEvidence := none
  progressPercent : Option Nat := none
  deriving DecidableEq

/-- The event types that may name an action. -/
def isActionEvent : Protocol.TaskEventType → Bool
  | .stepStarted | .stepProgress | .stepCompleted | .stepFailed | .taskOutcomeUncertain => true
  | _ => false

def carriesEvidence : Protocol.TaskEventType → Bool
  | .stepCompleted | .stepFailed | .taskOutcomeUncertain => true
  | _ => false

/-- The keys a payload may have, and that evidence comes with its version and an action. -/
def payloadAllowed (type : Protocol.TaskEventType) (p : EventPayload) : Prop :=
  (isActionEvent type = false → p = {}) ∧
    (p.progressPercent ≠ none → type = .stepProgress) ∧
    (p.evidence ≠ none ∨ p.evidenceVersion ≠ none → carriesEvidence type = true ∧
      p.evidence ≠ none ∧ p.actionId ≠ none ∧
      p.evidenceVersion = some .actionResultEvidenceV1)

instance (type : Protocol.TaskEventType) (p : EventPayload) : Decidable (payloadAllowed type p) := by
  unfold payloadAllowed; infer_instance

/-- The plan of an action's result; without an action there is none. -/
def settledPlan (p : EventPayload) (status : ActionStatus) (outcome : ActionOutcome)
    (fallback : ActionResultEvidence) : Option ActionPlan :=
  match p.actionId with
  | none => some {}
  | some a => do
    let evidence := p.evidence.getD fallback
    guard (outcome.admits evidence = true)
    return { actionId := a, status := status, outcome := outcome, evidence := evidence }

/-- `_action_plan`. mirrors task_event_convergence.py:228-327 -/
def actionPlan (type : Protocol.TaskEventType) (p : EventPayload) : Option ActionPlan := do
  guard (payloadAllowed type p)
  match type with
  | .stepStarted =>
    return { actionId := p.actionId, status := p.actionId.map fun _ => .dispatched }
  | .stepProgress =>
    guard (p.progressPercent.any (· ≤ 100) = true)
    return { actionId := p.actionId, progressPercent := p.progressPercent }
  | .stepCompleted => settledPlan p .verified .succeeded .executorReportedSuccess
  | .stepFailed => settledPlan p .verified .failed .executorReportedFailure
  | .taskOutcomeUncertain =>
    settledPlan p .outcomeUncertain .outcomeUncertain .finalStateUnconfirmed
  | _ => return {}

end TaskEventConvergence

/-- mirrors task_event_convergence.py:128-194 -/
structure PendingTaskEvent where
  message : Outbound
  type : Protocol.TaskEventType
  plan : TaskEventConvergence.EventPlan
  action : TaskEventConvergence.ActionPlan
  receivedAt : Time

abbrev PendingTaskEvent.sourceFingerprint (p : PendingTaskEvent) : SourceFingerprint :=
  .message (outboundIntent p.message)

/-- The task's row after the event, or as it was when the event is a repetition. -/
structure TaskEventConvergenceResult where
  snapshot : Task
  duplicate : Bool
  deriving DecidableEq

namespace TaskEventConvergenceRepository

/-- `_STEP_EVENT_TYPES`. -/
def isStep : Protocol.TaskEventType → Bool
  | .stepStarted | .stepProgress | .stepCompleted | .stepFailed => true
  | _ => false

/-- `_ATTEMPT_TRANSITIONS`. mirrors task_event_convergence_repository.py:72-122 -/
def attemptTransitions : ExecutionAttemptStatus → List ExecutionAttemptStatus
  | .pending | .offered | .accepted => [.running, .awaitingHuman]
  | .running =>
    [.paused, .awaitingHuman, .succeeded, .partiallySucceeded, .failed, .cancelled,
      .outcomeUncertain]
  | .paused => [.running, .awaitingHuman, .cancelled, .outcomeUncertain]
  | .awaitingHuman => [.running, .failed, .cancelled, .outcomeUncertain]
  | .cancelling => [.succeeded, .partiallySucceeded, .failed, .cancelled, .outcomeUncertain]
  | .succeeded | .partiallySucceeded | .failed | .cancelled | .rejected | .expired
  | .outcomeUncertain => []

/-- `_next_task_status`. -/
def nextTaskStatus (current : TaskStatus) (p : PendingTaskEvent) : Option TaskStatus :=
  match p.plan.taskStatus with
  | none => if isStep p.type = true ∧ (current = .running ∨ current = .cancelling) then
      some current else none
  | some target => if TaskStateMachine.canTransition current target then some target else none

/-- `_next_attempt_status`. -/
def nextAttemptStatus (current : ExecutionAttemptStatus) (p : PendingTaskEvent) :
    Option ExecutionAttemptStatus :=
  match p.plan.attemptStatus with
  | none => if isStep p.type = true ∧ (current = .running ∨ current = .cancelling) then
      some current else none
  | some target => if (attemptTransitions current).contains target then some target else none

/-- `_validate_action`. mirrors task_event_convergence_repository.py:172-223 -/
def validateAction (row : TaskAction) (p : PendingTaskEvent) :
    Option (ActionStatus × ActionOutcome) :=
  let pendingIn := fun (statuses : List ActionStatus) =>
    statuses.contains row.status && row.outcome == .pending
  if p.type = .stepProgress then
    if pendingIn [.dispatched] then some (row.status, row.outcome) else none
  else
    match p.action.status, p.action.outcome with
    | some .dispatched, _ =>
      if pendingIn [.authorized, .prepared, .dispatched] then some (.dispatched, row.outcome)
      else none
    | some .verified, some .succeeded =>
      if pendingIn [.dispatched] then some (.verified, .succeeded) else none
    | some .verified, some .failed =>
      if pendingIn [.authorized, .prepared, .dispatched] then some (.verified, .failed) else none
    | some .outcomeUncertain, some .outcomeUncertain =>
      if pendingIn [.dispatched] then some (.outcomeUncertain, .outcomeUncertain) else none
    | _, _ => none

/-! ## The failure circuit -/

def circuit? (db : Db) (i : InstallationId) (a : DouyinSearchExposureAction) :
    Option ActionFailureCircuit :=
  db.actionFailureCircuits.find? fun c => c.installationId = i ∧ c.action = a

def authorization? (db : Db) (a : ActionId) : Option ActionRiskAuthorization :=
  db.actionRiskAuthorizations.find? fun r => r.actionId = a

def result? (db : Db) (a : ActionId) : Option ActionRiskResult :=
  db.actionRiskResults.find? fun r => r.actionId = a

/-- The action result an event reports, if it reports one. -/
def riskOutcome? (p : PendingTaskEvent) : Option (ActionId × ActionOutcome) := do
  let actionId ← p.action.actionId
  let outcome ← p.action.outcome
  guard ((p.type = .stepCompleted ∨ p.type = .stepFailed) ∧
    (outcome = .succeeded ∨ outcome = .failed))
  return (actionId, outcome)

/-- The circuit's counters after a result. -/
structure CircuitStep where
  failuresAfter : Nat
  openedNow : Bool
  openAfter : Bool
  deriving DecidableEq

def circuitStep (priorFailures : Nat) (alreadyOpen : Bool) (outcome : ActionOutcome)
    (threshold : Nat) : CircuitStep :=
  let failuresAfter := if outcome = .succeeded then (if alreadyOpen then priorFailures else 0)
    else priorFailures + 1
  let openedNow := outcome == .failed && !alreadyOpen && decide (threshold ≤ failuresAfter)
  ⟨failuresAfter, openedNow, alreadyOpen || openedNow⟩

def resultRow (authorization : ActionRiskAuthorization) (outcome : ActionOutcome)
    (s : CircuitStep) (receivedAt : Time) : ActionRiskResult where
  actionId := authorization.actionId
  installationId := authorization.installationId
  action := authorization.action
  outcome := outcome
  consecutiveFailuresAfter := s.failuresAfter
  consecutiveFailureThreshold := authorization.consecutiveFailureThreshold
  circuitOpenAfter := s.openAfter
  triggeredHandoff := s.openedNow
  observedAt := receivedAt
  createdAt := receivedAt

def newCircuit (authorization : ActionRiskAuthorization) (s : CircuitStep) (receivedAt : Time) :
    ActionFailureCircuit where
  installationId := authorization.installationId
  action := authorization.action
  consecutiveFailures := s.failuresAfter
  circuitOpen := s.openAfter
  revision := 1
  lastActionId := authorization.actionId
  openedByActionId := if s.openedNow then some authorization.actionId else none
  openedAt := if s.openedNow then some receivedAt else none
  createdAt := receivedAt
  updatedAt := receivedAt

def movedCircuit (circuit : ActionFailureCircuit) (actionId : ActionId) (s : CircuitStep)
    (receivedAt : Time) : ActionFailureCircuit :=
  { circuit with
    consecutiveFailures := s.failuresAfter
    circuitOpen := s.openAfter
    revision := circuit.revision + 1
    lastActionId := actionId
    openedByActionId := if s.openedNow then some actionId else circuit.openedByActionId
    openedAt := if s.openedNow then some receivedAt else circuit.openedAt
    updatedAt := receivedAt }

/-- The row of a scope, moved or inserted. -/
def putCircuit (authorization : ActionRiskAuthorization) (s : CircuitStep) (receivedAt : Time)
    (circuits : Relation ActionFailureCircuit) :
    Option ActionFailureCircuit → Option (Relation ActionFailureCircuit)
  | none => circuits.insert? (newCircuit authorization s receivedAt)
  | some circuit =>
    circuits.replace? circuit (movedCircuit circuit authorization.actionId s receivedAt)

/-- One authorized action's first result. -/
def recordResult (receivedAt : Time) (authorization : ActionRiskAuthorization)
    (outcome : ActionOutcome) (db : Db) : Option (Bool × Db) := do
  guard (result? db authorization.actionId = none)
  let circuit := circuit? db authorization.installationId authorization.action
  let priorFailures := (circuit.map ActionFailureCircuit.consecutiveFailures).getD 0
  let alreadyOpen := (circuit.map ActionFailureCircuit.circuitOpen).getD false
  guard (∀ c ∈ circuit, c.updatedAt ≤ receivedAt)
  guard (outcome = .failed → priorFailures < maxActionRiskLimit)
  let s := circuitStep priorFailures alreadyOpen outcome
    authorization.consecutiveFailureThreshold
  let actionRiskResults ← db.actionRiskResults.insert?
    (resultRow authorization outcome s receivedAt)
  let actionFailureCircuits ← putCircuit authorization s receivedAt db.actionFailureCircuits circuit
  return (s.openedNow, { db with actionRiskResults, actionFailureCircuits })

/-- `_record_action_risk_result`: whether the result opened the circuit.
mirrors task_event_convergence_repository.py:226-341 -/
def recordActionRiskResult (p : PendingTaskEvent) (db : Db) : Option (Bool × Db) :=
  match riskOutcome? p with
  | none => some (false, db)
  | some (actionId, outcome) =>
    match authorization? db actionId with
    | none => some (false, db)
    | some authorization => recordResult p.receivedAt authorization outcome db

/-- The open circuit a resumed task owns: of its definition's action, opened by one of
its own actions. -/
def ownedCircuit? (db : Db) (t : TaskId) (i : InstallationId) : Option ActionFailureCircuit := do
  let definition ← db.definition? t i
  let circuit ← circuit? db i definition.action
  guard (circuit.circuitOpen = true)
  let opener ← circuit.openedByActionId
  let authorization ← authorization? db opener
  guard (authorization.taskId = t)
  return circuit

def clearedCircuit (circuit : ActionFailureCircuit) (receivedAt : Time) : ActionFailureCircuit :=
  { circuit with
    consecutiveFailures := 0
    circuitOpen := false
    revision := circuit.revision + 1
    openedByActionId := none
    openedAt := none
    updatedAt := receivedAt }

/-- `_clear_owned_failure_circuit`. mirrors task_event_convergence_repository.py:344-410 -/
def clearOwnedFailureCircuit (p : PendingTaskEvent) (db : Db) : Option Db :=
  if p.type = .taskResumed then
    match ownedCircuit? db p.message.taskId p.message.installationId with
    | none => some db
    | some circuit => do
      guard (circuit.updatedAt ≤ p.receivedAt)
      let actionFailureCircuits ← db.actionFailureCircuits.replace? circuit
        (clearedCircuit circuit p.receivedAt)
      return { db with actionFailureCircuits }
  else some db

/-! ## The projection -/

/-- The control commands an event must follow, and the family they are the latest of. -/
def expectedControls (type : Protocol.TaskEventType) (current : TaskStatus) :
    Option (List TaskCommandType × List TaskCommandType) :=
  match type with
  | .taskPaused => some ([.taskPause], [.taskPause, .taskResume])
  | .taskResumed => some ([.taskResume], [.taskPause, .taskResume])
  | .taskCancelled =>
    some ([.taskCancel, .taskEmergencyStop], [.taskCancel, .taskEmergencyStop])
  | .taskOutcomeUncertain =>
    if current = .cancelling then
      some ([.taskCancel, .taskEmergencyStop], [.taskCancel, .taskEmergencyStop])
    else none
  | _ => none

/-- The last control of a family the attempt was sent. -/
def latestControl? (db : Db) (m : Outbound) (family : List TaskCommandType) : Option TaskCommand :=
  db.taskCommands.least? (fun c => c.executionAttemptId = m.executionAttemptId ∧
    c.taskId = m.taskId ∧ c.installationId = m.installationId ∧ c.commandType ∈ family)
    fun c => OrderDual.toDual c.sequence

/-- The executor acknowledged the control the event answers. -/
def controlAcknowledged (db : Db) (p : PendingTaskEvent) (current : TaskStatus) : Prop :=
  ∀ x ∈ expectedControls p.type current, ∃ c ∈ latestControl? db p.message x.2,
    c.commandType ∈ x.1 ∧ c.status = .acknowledged ∧ c.responseType = some .taskControlAck ∧
      c.correlationId = p.message.correlationId ∧ ∃ t ∈ c.acknowledgedAt, t ≤ p.receivedAt

instance (db : Db) (p : PendingTaskEvent) (s : TaskStatus) : Decidable (controlAcknowledged db p s) := by
  unfold controlAcknowledged; infer_instance

/-- The action an event names and what the event makes of it. -/
structure ActionMove where
  row : TaskAction
  status : ActionStatus
  outcome : ActionOutcome
  deriving DecidableEq

def actionMove? (db : Db) (p : PendingTaskEvent) (a : ActionId) : Option ActionMove := do
  let row ← db.taskActions.find? fun r => r.id = a ∧
    r.executionAttemptId = p.message.executionAttemptId ∧ r.taskId = p.message.taskId ∧
    r.installationId = p.message.installationId
  guard (row.updatedAt ≤ p.receivedAt)
  let (status, outcome) ← validateAction row p
  return ⟨row, status, outcome⟩

/-- `none` when the event is refused, `some none` when it names no action. -/
def namedAction (db : Db) (p : PendingTaskEvent) : Option (Option ActionMove) :=
  match p.action.actionId with
  | none => some none
  | some a => (actionMove? db p a).map some

def movedAction (p : PendingTaskEvent) (m : ActionMove) : TaskAction :=
  { m.row with
    status := m.status
    outcome := m.outcome
    revision := m.row.revision + 1
    updatedAt := p.receivedAt
    finishedAt := if m.status = .verified ∨ m.status = .outcomeUncertain then
      some p.receivedAt else m.row.finishedAt
    evidenceCode := if m.status = .verified ∨ m.status = .outcomeUncertain then
      p.action.evidence else m.row.evidenceCode }

def projectAction (p : PendingTaskEvent) (actions : Relation TaskAction) :
    Option ActionMove → Option (Relation TaskAction)
  | none => some actions
  | some m =>
    if (m.status, m.outcome) = (m.row.status, m.row.outcome) then some actions
    else actions.replace? m.row (movedAction p m)

/-- What the event makes of the task, of the attempt, and of the timeline. -/
structure Projection where
  taskStatus : TaskStatus
  attemptStatus : ExecutionAttemptStatus
  eventType : TaskEventType
  deriving DecidableEq

/-- A result that opens the circuit of a running task hands the task to a human,
whatever the event would have made of it. -/
def projection (p : PendingTaskEvent) (opened : Bool) (task : Task) (attempt : ExecutionAttempt) :
    Option Projection :=
  if opened = true ∧ task.status = .running then
    some ⟨.awaitingHuman, .awaitingHuman, .taskAwaitingHuman⟩
  else do
    let taskStatus ← nextTaskStatus task.status p
    let attemptStatus ← nextAttemptStatus attempt.status p
    return ⟨taskStatus, attemptStatus, p.plan.eventType⟩

def movedAttempt (p : PendingTaskEvent) (attempt : ExecutionAttempt)
    (status : ExecutionAttemptStatus) : ExecutionAttempt :=
  { attempt with
    status := status
    revision := attempt.revision + 1
    updatedAt := p.receivedAt
    startedAt := if status = .running ∧ attempt.startedAt = none then some p.receivedAt
      else attempt.startedAt
    finishedAt := if status.isTerminal then some p.receivedAt else attempt.finishedAt }

def projectAttempt (p : PendingTaskEvent) (attempt : ExecutionAttempt)
    (status : ExecutionAttemptStatus) (attempts : Relation ExecutionAttempt) :
    Option (Relation ExecutionAttempt) :=
  if status = attempt.status then some attempts
  else attempts.replace? attempt (movedAttempt p attempt status)

def eventRow (p : PendingTaskEvent) (j : Projection) (task : Task) : TaskEvent where
  taskId := p.message.taskId
  installationId := p.message.installationId
  sequence := p.message.sequence
  eventType := j.eventType
  taskRevision := task.revision + 1
  taskStatus := j.taskStatus
  executionAttemptId := some p.message.executionAttemptId
  actionId := p.action.actionId
  sourceMessageId := some p.message.messageId
  sourceIdempotencyKey := p.message.idempotencyKey
  sourceFingerprint := p.sourceFingerprint
  progressPercent := p.action.progressPercent
  occurredAt := p.message.sentAt
  recordedAt := p.receivedAt

def movedTask (p : PendingTaskEvent) (j : Projection) (task : Task) : Task :=
  { task with
    status := j.taskStatus
    revision := task.revision + 1
    lastEventSequence := p.message.sequence
    updatedAt := p.receivedAt }

/-- A new event. mirrors task_event_convergence_repository.py:504-718 -/
def project (p : PendingTaskEvent) (task : Task) (db : Db) : Option (Task × Db) := do
  guard (p.message.sequence = task.lastEventSequence + 1)
  guard (task.updatedAt ≤ p.receivedAt)
  let attempt ← db.attempt? p.message.executionAttemptId p.message.taskId p.message.installationId
  guard (attempt.updatedAt ≤ p.receivedAt)
  guard (controlAcknowledged db p task.status)
  let action ← namedAction db p
  let (opened, recorded) ← recordActionRiskResult p db
  let j ← projection p opened task attempt
  let cleared ← clearOwnedFailureCircuit p recorded
  let executionAttempts ← projectAttempt p attempt j.attemptStatus cleared.executionAttempts
  let taskActions ← projectAction p cleared.taskActions action
  let taskEvents ← cleared.taskEvents.insert? (eventRow p j task)
  let tasks ← cleared.tasks.replace? task (movedTask p j task)
  return (movedTask p j task, { cleared with executionAttempts, taskActions, taskEvents, tasks })

/-- The stored event is this one. -/
def isReplay (p : PendingTaskEvent) (byMessage byKey : Option TaskEvent) : Prop :=
  (∀ e ∈ byMessage, e.sourceFingerprint = p.sourceFingerprint) ∧
    (∀ e ∈ byKey, e.sourceFingerprint = p.sourceFingerprint) ∧
    ∀ e ∈ byMessage, ∀ f ∈ byKey, e.taskId = f.taskId ∧ e.sequence = f.sequence

instance (p : PendingTaskEvent) (a b : Option TaskEvent) : Decidable (isReplay p a b) := by
  unfold isReplay; infer_instance

/-- mirrors task_event_convergence_repository.py:421-727 -/
def converge (p : PendingTaskEvent) (db : Db) : Option (TaskEventConvergenceResult × Db) := do
  guard (∃ r ∈ db.installations.rows, r.id = p.message.installationId)
  let task ← db.task? p.message.taskId p.message.installationId
  guard (task.currentAttemptId = some p.message.executionAttemptId)
  let byMessage := db.eventByMessage? p.message.installationId p.message.messageId
  let byKey := db.eventByKey? p.message.installationId p.message.idempotencyKey
  if byMessage = none ∧ byKey = none then
    let (snapshot, db') ← project p task db
    return (⟨snapshot, false⟩, db')
  else
    guard (isReplay p byMessage byKey)
    return (⟨task, true⟩, db)

end TaskEventConvergenceRepository

namespace TaskEventConvergence

/-- The plan `receive` makes of a message; `none` when it is refused unseen. -/
def pending? (m : Outbound) (receivedAt : Time) : Option PendingTaskEvent :=
  match m.body with
  | .taskEvent type payload => do
    guard (m.sentAt ≤ receivedAt ∧ receivedAt < m.deadlineAt)
    let action ← actionPlan type payload
    return ⟨m, type, eventPlan type, action, receivedAt⟩
  | _ => none

/-- `TaskEventConvergenceService.receive`. mirrors task_event_convergence.py:350-390 -/
def receive (m : Outbound) (receivedAt : Time) (db : Db) :
    Option (TaskEventConvergenceResult × Db) := do
  let p ← pending? m receivedAt
  TaskEventConvergenceRepository.converge p db

end TaskEventConvergence
end AutomationTool.ControlPlane
