import AutomationTool.ControlPlane.EventConvergence
import AutomationTool.ControlPlane.TargetPreview

/-!
# Risk authorization of actions

One grant is one row of `action_risk_authorizations` together with its action; it is
counted against the task, the UTC day and the time since the last grant of its scope.
mirrors control_plane/infrastructure/database/action_risk_authorization_repository.py
-/
namespace AutomationTool.ControlPlane

open Protocol

/-- mirrors action_risk_authorizations.py:33-37 -/
inductive ActionRiskLimitReason where
  | minimumInterval | taskActionLimit | dailyActionLimit | consecutiveFailureCircuit
  deriving DecidableEq, Repr

inductive ActionRiskAuthorizationError where
  | rejected
  | limited (reason : ActionRiskLimitReason)
  deriving DecidableEq, Repr

/-- What `authorize` is asked for. -/
structure AuthorizationRequest where
  actionId : ActionId
  targetId : TargetId
  executionAttemptId : ExecutionAttemptId
  taskId : TaskId
  installationId : InstallationId
  policy : ActionRiskPolicy
  authorizedAt : Time
  deriving DecidableEq

namespace ActionRiskAuthorizationRepository

open TaskTargetPreviewRepository TaskEventConvergenceRepository

/-- `_same_intent`. mirrors action_risk_authorization_repository.py:96-114 -/
def sameIntent (existing : ActionRiskAuthorization) (q : AuthorizationRequest) : Prop :=
  existing.actionId = q.actionId ∧ existing.targetId = q.targetId ∧
    existing.executionAttemptId = q.executionAttemptId ∧ existing.taskId = q.taskId ∧
    existing.installationId = q.installationId ∧ existing.action = q.policy.scope.action

instance (a : ActionRiskAuthorization) (q : AuthorizationRequest) : Decidable (sameIntent a q) := by
  unfold sameIntent; infer_instance

/-- The failure circuit of the request's scope is open. -/
def circuitOpen (db : Db) (q : AuthorizationRequest) : Prop :=
  ∃ c ∈ circuit? db q.installationId q.policy.scope.action, c.circuitOpen = true

/-- The task runs this attempt, and the request does not predate either. -/
def runningFor (db : Db) (q : AuthorizationRequest) (task : Task) : Prop :=
  task.status = .running ∧ task.currentAttemptId = some q.executionAttemptId ∧
    task.updatedAt ≤ q.authorizedAt ∧
    ∃ a ∈ db.attempt? q.executionAttemptId q.taskId q.installationId,
      a.status = .running ∧ a.updatedAt ≤ q.authorizedAt

instance (db : Db) (q : AuthorizationRequest) : Decidable (circuitOpen db q) := by
  unfold circuitOpen; infer_instance

instance (db : Db) (q : AuthorizationRequest) (task : Task) : Decidable (runningFor db q task) := by
  unfold runningFor; infer_instance

def target? (db : Db) (q : AuthorizationRequest) : Option TaskTarget :=
  db.taskTargets.find? fun r => r.id = q.targetId ∧ r.taskId = q.taskId ∧
    r.installationId = q.installationId

/-- The user excluded the target. -/
def isExcluded (db : Db) (q : AuthorizationRequest) : Prop :=
  ∃ x ∈ db.taskTargetExclusions.rows, x.targetId = q.targetId ∧ x.taskId = q.taskId ∧
    x.installationId = q.installationId

instance (db : Db) (q : AuthorizationRequest) : Decidable (isExcluded db q) := by
  unfold isExcluded; infer_instance

/-- The checks on the task's attempt, its definition, the session and the confirmed
intent; the definition and the target they end with. -/
def admitted? (q : AuthorizationRequest) (db : Db) : Option (Definition × TaskTarget) := do
  let task ← db.task? q.taskId q.installationId
  guard (runningFor db q task)
  let definition ← db.definition? q.taskId q.installationId
  guard (definition.action = q.policy.scope.action)
  guard (db.healthy q.installationId ∧ ¬db.gated q.installationId)
  let confirmation ← db.confirmation? q.taskId q.installationId
  let intent ← confirmationIntent? q.installationId q.taskId confirmation.pageRevision
    confirmation.selectionTaskRevision definition
    (selectedTargetIds db q.taskId q.installationId confirmation.pageRevision)
  let target ← target? db q
  guard (target.pageRevision = confirmation.pageRevision ∧ target.disposition = .eligible ∧
    ¬isExcluded db q ∧ confirms confirmation intent ∧
    confirmation.confirmedTaskRevision ≤ task.revision ∧
    confirmation.confirmedAt ≤ q.authorizedAt)
  return (definition, target)

def inTask (q : AuthorizationRequest) (a : ActionRiskAuthorization) : Bool :=
  a.taskId = q.taskId ∧ a.action = q.policy.scope.action

def inScope (q : AuthorizationRequest) (a : ActionRiskAuthorization) : Bool :=
  a.installationId = q.installationId ∧ a.action = q.policy.scope.action

def onDay (q : AuthorizationRequest) (a : ActionRiskAuthorization) : Bool :=
  inScope q a ∧ a.authorizedDay = utcDay q.authorizedAt

/-- The time of the scope's last grant, if it has one. -/
def lastAuthorizedAt (db : Db) (q : AuthorizationRequest) : Option Time :=
  if db.actionRiskAuthorizations.rows.any (inScope q) then
    some (db.actionRiskAuthorizations.maxOf (inScope q) ActionRiskAuthorization.authorizedAt)
  else none

/-- Counts and interval; the effective interval when none of them refuses.
mirrors action_risk_authorization_repository.py:369-428 -/
def withinLimits (q : AuthorizationRequest) (definition : Definition) (db : Db) :
    Except ActionRiskAuthorizationError Nat :=
  let interval := max q.policy.minimumIntervalSeconds definition.minimumIntervalSeconds
  if q.policy.taskActionLimit ≤ db.actionRiskAuthorizations.rows.countP (inTask q) then
    .error (.limited .taskActionLimit)
  else if q.policy.dailyActionLimit ≤ db.actionRiskAuthorizations.rows.countP (onDay q) then
    .error (.limited .dailyActionLimit)
  else
    match lastAuthorizedAt db q with
    | none => .ok interval
    | some previous =>
      if q.authorizedAt < previous then .error .rejected
      else if q.authorizedAt < previous + seconds interval then
        .error (.limited .minimumInterval)
      else .ok interval

def actionRow (q : AuthorizationRequest) (target : TaskTarget) : TaskAction where
  id := q.actionId
  executionAttemptId := q.executionAttemptId
  taskId := q.taskId
  installationId := q.installationId
  ordinal := target.ordinal
  status := .authorized
  outcome := .pending
  evidenceCode := none
  revision := 1
  createdAt := q.authorizedAt
  updatedAt := q.authorizedAt
  finishedAt := none

def authorizationRow (q : AuthorizationRequest) (target : TaskTarget) (interval : Nat)
    (db : Db) : ActionRiskAuthorization where
  actionId := q.actionId
  targetId := q.targetId
  executionAttemptId := q.executionAttemptId
  taskId := q.taskId
  installationId := q.installationId
  ordinal := target.ordinal
  action := q.policy.scope.action
  effectiveMinimumIntervalSeconds := interval
  taskActionLimit := q.policy.taskActionLimit
  dailyActionLimit := q.policy.dailyActionLimit
  consecutiveFailureThreshold := q.policy.consecutiveFailureThreshold
  taskCountAfter := db.actionRiskAuthorizations.rows.countP (inTask q) + 1
  dailyCountAfter := db.actionRiskAuthorizations.rows.countP (onDay q) + 1
  authorizedDay := utcDay q.authorizedAt
  authorizedAt := q.authorizedAt
  createdAt := q.authorizedAt

/-- The two inserts of a grant; `none` on a constraint violation. -/
def grant (q : AuthorizationRequest) (target : TaskTarget) (interval : Nat) (db : Db) :
    Option Db := do
  let taskActions ← db.taskActions.insert? (actionRow q target)
  let actionRiskAuthorizations ← db.actionRiskAuthorizations.insert?
    (authorizationRow q target interval db)
  return { db with taskActions, actionRiskAuthorizations }

/-- The request as a new one. -/
def authorizeNew (q : AuthorizationRequest) (db : Db) :
    Except ActionRiskAuthorizationError (ActionRiskAuthorization × Db) :=
  if circuitOpen db q then .error (.limited .consecutiveFailureCircuit)
  else
    match admitted? q db with
    | none => .error .rejected
    | some (definition, target) =>
      match withinLimits q definition db with
      | .error e => .error e
      | .ok interval =>
        match grant q target interval db with
        | none => .error .rejected
        | some db' => .ok (authorizationRow q target interval db, db')

/-- mirrors action_risk_authorization_repository.py:127-480 -/
def authorize (q : AuthorizationRequest) (db : Db) :
    Except ActionRiskAuthorizationError (ActionRiskAuthorization × Db) :=
  if q.policy.scope.installationId = q.installationId ∧ db.active q.installationId then
    match authorization? db q.actionId with
    | some existing => if sameIntent existing q then .ok (existing, db) else .error .rejected
    | none => authorizeNew q db
  else .error .rejected

end ActionRiskAuthorizationRepository
end AutomationTool.ControlPlane
