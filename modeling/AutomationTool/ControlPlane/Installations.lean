import AutomationTool.ControlPlane.Database

/-!
# Installations, their platform session and their tasks

The writers outside the task lifecycle that decide whether it may go on: an
installation is registered and revoked, its session reports its health and is logged
out (which gates new work until a later healthy session), and tasks are created.

* `register`, `revoke`: infrastructure/database/registration.py,
  installation_revocation_repository.py (device keys and credentials left out).
* `convergeHealth`, `beginLogout`: infrastructure/database/platform_session_health_repository.py.
* `create`: task_repository.py:72-178.
-/
namespace AutomationTool.ControlPlane

open Protocol

/-- The row a completed registration inserts. -/
def newInstallation (i : InstallationId) (completedAt : Time) : Installation where
  id := i
  status := .active
  revision := 1
  createdAt := completedAt
  updatedAt := completedAt
  revokedAt := none

def register (i : InstallationId) (completedAt : Time) (db : Db) : Option (Installation × Db) := do
  let installations ← db.installations.insert? (newInstallation i completedAt)
  return (newInstallation i completedAt, { db with installations })

def revokedInstallation (row : Installation) (revokedAt : Time) : Installation :=
  { row with
    status := .revoked
    revision := row.revision + 1
    updatedAt := revokedAt
    revokedAt := some revokedAt }

/-- mirrors installation_revocation_repository.py:26-90 -/
def revoke (i : InstallationId) (expectedRevision : Nat) (revokedAt : Time) (db : Db) :
    Option (Installation × Db) := do
  let row ← db.installations.find? fun r => r.id = i
  guard (row.status = .active ∧ row.revision = expectedRevision)
  let installations ← db.installations.replace? row (revokedInstallation row revokedAt)
  return (revokedInstallation row revokedAt, { db with installations })

/-! ## The platform session -/

/-- mirrors platform_session_health.py:55-77 -/
structure PendingPlatformSessionHealth where
  installationId : InstallationId
  state : PlatformSessionState
  sessionRevision : Nat
  observedAt : Time
  receivedAt : Time
  deriving DecidableEq

structure PlatformSessionHealthResult where
  projection : PlatformSessionHealth
  duplicate : Bool
  deriving DecidableEq

def healthRow (p : PendingPlatformSessionHealth) : PlatformSessionHealth where
  installationId := p.installationId
  state := p.state
  sessionRevision := p.sessionRevision
  observedAt := p.observedAt
  updatedAt := p.receivedAt

/-- The report is newer than the stored row, by revision or by observation. -/
def supersedesHealth (p : PendingPlatformSessionHealth) (row : PlatformSessionHealth) : Prop :=
  (if p.sessionRevision = row.sessionRevision then row.observedAt < p.observedAt ∧
      (row.state ≠ .healthy → p.state ≠ .healthy)
    else row.sessionRevision < p.sessionRevision ∧ row.observedAt < p.observedAt) ∧
    row.updatedAt ≤ p.receivedAt

instance (p : PendingPlatformSessionHealth) (row : PlatformSessionHealth) :
    Decidable (supersedesHealth p row) := by
  unfold supersedesHealth; infer_instance

def gate? (db : Db) (i : InstallationId) : Option PlatformSessionGate :=
  db.platformSessionGates.find? fun g => g.installationId = i

/-- A session that is healthy again lifts the gate of every older one. -/
def liftGate (p : PendingPlatformSessionHealth) (db : Db) : Relation PlatformSessionGate :=
  match gate? db p.installationId with
  | some gate =>
    if p.state = .healthy ∧ gate.sessionRevision < p.sessionRevision then
      db.platformSessionGates.deleteWhere fun g => g.installationId = p.installationId ∧
        g.sessionRevision = gate.sessionRevision
    else db.platformSessionGates
  | none => db.platformSessionGates

/-- mirrors platform_session_health_repository.py:81-217 -/
def convergeHealth (p : PendingPlatformSessionHealth) (db : Db) :
    Option (PlatformSessionHealthResult × Db) := do
  guard (db.active p.installationId)
  match db.platformSessionHealth.find? fun h => h.installationId = p.installationId with
  | none =>
    let platformSessionHealth ← db.platformSessionHealth.insert? (healthRow p)
    return (⟨healthRow p, false⟩, { db with platformSessionHealth })
  | some row =>
    if p.sessionRevision = row.sessionRevision ∧ p.observedAt = row.observedAt then
      guard (p.state = row.state)
      return (⟨row, true⟩, db)
    else
      guard (supersedesHealth p row)
      let platformSessionHealth ← db.platformSessionHealth.replace? row (healthRow p)
      return (⟨healthRow p, false⟩,
        { db with platformSessionHealth, platformSessionGates := liftGate p db })

def gateRow (i : InstallationId) (blockedAt : Time) (db : Db) : PlatformSessionGate where
  installationId := i
  sessionRevision := ((db.platformSessionHealth.find? fun h => h.installationId = i).map
    PlatformSessionHealth.sessionRevision).getD 0 + 1
  updatedAt := blockedAt

/-- mirrors platform_session_health_repository.py:219-297 -/
def beginLogout (i : InstallationId) (blockedAt : Time) (db : Db) :
    Option (PlatformSessionGate × Db) := do
  guard (db.active i)
  match gate? db i with
  | some gate => return (gate, db)
  | none =>
    let platformSessionGates ← db.platformSessionGates.insert? (gateRow i blockedAt db)
    return (gateRow i blockedAt db, { db with platformSessionGates })

/-! ## Creating tasks -/

structure PendingTask where
  taskId : TaskId
  installationId : InstallationId
  idempotencyKey : IdempotencyKey
  definition : DouyinSearchExposureDefinition
  createdAt : Time
  deriving DecidableEq

structure TaskCreationResult where
  task : Task
  created : Bool
  deriving DecidableEq

def newTask (p : PendingTask) : Task where
  id := p.taskId
  installationId := p.installationId
  creationIdempotencyKey := p.idempotencyKey
  currentAttemptId := none
  lastEventSequence := 0
  status := .draft
  revision := 1
  createdAt := p.createdAt
  updatedAt := p.createdAt

def newDefinition (p : PendingTask) : Definition :=
  { p.definition with
    taskId := p.taskId
    installationId := p.installationId }

/-- `SqlAlchemyTaskRepository.create`. -/
def create (p : PendingTask) (db : Db) : Option (TaskCreationResult × Db) := do
  guard (db.active p.installationId)
  match db.tasks.find? fun r => r.installationId = p.installationId ∧
      r.creationIdempotencyKey = p.idempotencyKey with
  | some existing =>
    let stored ← db.definition? existing.id p.installationId
    guard (stored.toDouyinSearchExposureDefinition = p.definition)
    return (⟨existing, false⟩, db)
  | none =>
    guard (¬db.gated p.installationId)
    let tasks ← db.tasks.insert? (newTask p)
    let definitions ← db.definitions.insert? (newDefinition p)
    return (⟨newTask p, true⟩, { db with tasks, definitions })

end AutomationTool.ControlPlane
