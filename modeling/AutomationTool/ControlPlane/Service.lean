import AutomationTool.Core.Prog
import AutomationTool.ControlPlane.Installations
import AutomationTool.ControlPlane.Orchestration

/-!
# The control plane as a service

One operation per transaction of the repositories, and `exec`, which runs one: what
raises changes nothing. `system` is the service called by anybody in any order;
`advance` is the one method that is several transactions.
-/
namespace AutomationTool.ControlPlane

open Protocol

inductive Op where
  | register (i : InstallationId) (completedAt : Time)
  | revoke (i : InstallationId) (expectedRevision : Nat) (revokedAt : Time)
  | convergeHealth (pending : PendingPlatformSessionHealth)
  | beginLogout (i : InstallationId) (blockedAt : Time)
  | create (pending : PendingTask)
  | enqueue (command : PendingTaskCommand)
  | enqueueControl (control : PendingTaskControl)
  | expireDue (i : InstallationId) (now : Time)
  | claimNext (request : TaskCommandRepository.ClaimRequest) (locked : MessageId → Bool)
  | markDelivered (m : MessageId) (expectedRevision : Nat) (deliveredAt : Time)
  | releaseForRetry (m : MessageId) (expectedRevision : Nat) (now retryAt : Time)
  | acknowledge (response : TaskCommandRepository.TaskCommandResponse) (timestamp : Time)
  | receive (m : Outbound) (receivedAt : Time)
  | startDiscovery (pending : PendingTaskDiscovery)
  | receiveCompleted (r : TaskDiscoveryRepository.DiscoveryReport)
      (candidates : Option (List DouyinCandidate)) (receivedAt : Time) (ids : Nat → TargetId)
  | replaceExclusions (pending : PendingTaskTargetExclusions)
  | confirm (pending : PendingTaskTargetConfirmation)
  | prepare (pending : PendingActionExecutionAdvance) (skipped : TaskId → Bool)
  | authorize (q : AuthorizationRequest)
  | enqueueAuthorized (pending : PendingActionExecutionAdvance) (a : ActionId)

/-- What an operation returns; `none` and `.error` are what it raises. -/
abbrev Op.Ret : Op → Type
  | .register .. => Option Installation
  | .revoke .. => Option Installation
  | .convergeHealth _ => Option PlatformSessionHealthResult
  | .beginLogout .. => Option PlatformSessionGate
  | .create _ => Option TaskCreationResult
  | .enqueue _ => Option TaskCommand
  | .enqueueControl _ => Option TaskControlEnqueueResult
  | .expireDue .. => Option Nat
  | .claimNext .. => Option (Option (TaskCommand × TaskCommandRepository.CommandContext))
  | .markDelivered .. => Option TaskCommand
  | .releaseForRetry .. => Option TaskCommand
  | .acknowledge .. => Option TaskCommand
  | .receive .. => Option TaskEventConvergenceResult
  | .startDiscovery _ => Except TaskDiscoveryError TaskDiscoveryStartResult
  | .receiveCompleted .. => Option TaskDiscoveryConvergenceResult
  | .replaceExclusions _ => Option TaskTargetPreviewRepository.TaskTargetPreviewMutationResult
  | .confirm _ => Option TaskTargetPreviewRepository.TaskTargetPreviewMutationResult
  | .prepare .. => Except ActionExecutionAdvanceError Prepared
  | .authorize _ => Except ActionRiskAuthorizationError ActionRiskAuthorization
  | .enqueueAuthorized .. => Except ActionExecutionAdvanceError ActionExecutionAdvanceKind

namespace Db

/-- Commit, or roll back. -/
def atomic {α : Type} (db : Db) : Option (α × Db) → Option α × Db
  | some (a, db') => (some a, db')
  | none => (none, db)

def atomicExcept {ε α : Type} (db : Db) : Except ε (α × Db) → Except ε α × Db
  | .ok (a, db') => (.ok a, db')
  | .error e => (.error e, db)

@[simp] theorem atomic_some {α : Type} (db db' : Db) (a : α) :
    db.atomic (some (a, db')) = (some a, db') := rfl

@[simp] theorem atomic_none {α : Type} (db : Db) :
    db.atomic (none : Option (α × Db)) = (none, db) := rfl

/-- A transaction that raised left everything as it was. -/
theorem atomic_eq {α : Type} {db db' : Db} {x : Option (α × Db)} {a : Option α}
    (h : db.atomic x = (a, db')) :
    (a = none ∧ db' = db) ∨ ∃ b, a = some b ∧ x = some (b, db') := by
  match x, h with
  | none, h =>
    cases h
    exact .inl ⟨rfl, rfl⟩
  | some (b, d), h =>
    cases h
    exact .inr ⟨b, rfl, rfl⟩

theorem atomicExcept_eq {ε α : Type} {db db' : Db} {x : Except ε (α × Db)} {a : Except ε α}
    (h : db.atomicExcept x = (a, db')) :
    (∃ e, a = .error e ∧ db' = db) ∨ ∃ b, a = .ok b ∧ x = .ok (b, db') := by
  match x, h with
  | .error e, h =>
    cases h
    exact .inl ⟨e, rfl, rfl⟩
  | .ok (b, d), h =>
    cases h
    exact .inr ⟨b, rfl, rfl⟩

end Db

open TaskCommandRepository TaskTargetPreviewRepository ActionExecutionOrchestrationRepository in
/-- One operation as one transaction. -/
def exec : (o : Op) → Db → o.Ret × Db
  | .register i t, db => db.atomic (register i t db)
  | .revoke i r t, db => db.atomic (revoke i r t db)
  | .convergeHealth p, db => db.atomic (convergeHealth p db)
  | .beginLogout i t, db => db.atomic (beginLogout i t db)
  | .create p, db => db.atomic (create p db)
  | .enqueue c, db => db.atomic (enqueue c db)
  | .enqueueControl c, db => db.atomic (enqueueControl c db)
  | .expireDue i t, db => db.atomic (expireDue i t db)
  | .claimNext q locked, db => db.atomic (claimNext q locked db)
  | .markDelivered m r t, db => db.atomic (markDelivered m r t db)
  | .releaseForRetry m r t t', db => db.atomic (releaseForRetry m r t t' db)
  | .acknowledge r t, db => db.atomic (acknowledge r t db)
  | .receive m t, db => db.atomic (TaskEventConvergence.receive m t db)
  | .startDiscovery p, db => db.atomicExcept (TaskDiscoveryRepository.start p db)
  | .receiveCompleted r cs t ids, db =>
    db.atomic (TaskDiscoveryRepository.receiveCompleted r cs t ids db)
  | .replaceExclusions p, db => db.atomic (replaceExclusions p db)
  | .confirm p, db => db.atomic (confirm p db)
  | .prepare p skipped, db => db.atomicExcept (prepare p skipped db)
  | .authorize q, db => db.atomicExcept (ActionRiskAuthorizationRepository.authorize q db)
  | .enqueueAuthorized p a, db => db.atomicExcept (enqueueAuthorized p a db)

/-- The control plane, from an empty database: any operation at any time. -/
def system : LTS Db (Call Op Op.Ret) := calls (· = Db.empty) exec fun _ _ => True

/-- The states a list of operations reaches are the reachable ones. -/
theorem reachable_after (os : List Op) : system.Reachable (after exec Db.empty os) :=
  ⟨Db.empty, replies exec Db.empty os, rfl,
    run_replies _ (allOk_of_forall (fun _ _ _ => trivial) _)⟩

/-! ## `advance` -/

namespace ActionExecutionOrchestrationRepository

/-- What `advance` returns or raises. -/
abbrev AdvanceResult := Except ActionExecutionAdvanceError ActionExecutionAdvanceKind

/-- One round: `none` when the authorization was refused, which is tried once more. -/
def advanceOnce (pending : PendingActionExecutionAdvance) (skipped : TaskId → Bool) :
    Prog Op Op.Ret (Option AdvanceResult) :=
  .call (.prepare pending skipped) fun prepared =>
    match prepared with
    | .error e => pure (some (.error e))
    | .ok (.done kind) => pure (some (.ok kind))
    | .ok (.next n) =>
      .call (.authorize (authorizationRequest pending n)) fun authorization =>
        match authorization with
        | .error (.limited _) => pure (some (.ok .rateLimited))
        | .error .rejected => pure none
        | .ok granted =>
          .call (.enqueueAuthorized pending granted.actionId) fun enqueued => pure (some enqueued)

/-- mirrors action_execution_orchestration_repository.py:90-138; `skipped` are the task
rows other transactions hold in each round. -/
def advance (pending : PendingActionExecutionAdvance) (skipped skipped' : TaskId → Bool) :
    Prog Op Op.Ret AdvanceResult :=
  advanceOnce pending skipped >>= fun first =>
    match first with
    | some result => pure result
    | none => advanceOnce pending skipped' >>= fun second => pure (second.getD (.ok .idle))

end ActionExecutionOrchestrationRepository
end AutomationTool.ControlPlane
