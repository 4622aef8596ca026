import AutomationTool.Core.Chronicle
import AutomationTool.Core.Relation
import AutomationTool.Editing.TimelineService

/-!
# Editing jobs

A render of one timeline revision: the closed graph of its states (`editing_job.py`), the
table of jobs with its keys, and the operations on it. `update` is a compare-and-set on the
status and the time of the last change; every operation of the repository is one
transaction, and the two of the service (`submit`, `reconcile`) read before they write.

`journal` is what the transactions did, latest first; no operation reads it.
-/
namespace AutomationTool.Editing

open Protocol

abbrev EditingJobId := Nat
abbrev ArtifactId := Nat

/-- mirrors editing_job.py:44-60 -/
inductive EditingJobStatus where
  | queued | running | cancelling | succeeded | failed | cancelled
  deriving DecidableEq, Repr

/-- mirrors editing_job.py:144-154 -/
inductive EditingJobFailureCode where
  | invalidTimeline | materialUnavailable | materialUnsupported | fontUnavailable
  | renderFailed | resourceExhausted | permissionDenied | workerLost
  deriving DecidableEq, Repr

namespace EditingJobStatus

/-- `_TRANSITIONS`.
mirrors editing_job.py:66-97 -/
def transitions : EditingJobStatus → List EditingJobStatus
  | .queued => [.running, .cancelling, .failed]
  | .running => [.cancelling, .succeeded, .failed]
  | .cancelling => [.succeeded, .failed, .cancelled]
  | .succeeded => []
  | .failed => []
  | .cancelled => []

/-- `EditingJobStateMachine.can_transition`. -/
def canTransition (current target : EditingJobStatus) : Bool := target ∈ current.transitions

/-- `EditingJobStateMachine.is_terminal`. -/
def isTerminal : EditingJobStatus → Bool
  | .succeeded | .failed | .cancelled => true
  | .queued | .running | .cancelling => false

/-- How far a job has come. -/
def rank : EditingJobStatus → Nat
  | .queued => 0
  | .running => 1
  | .cancelling => 2
  | .succeeded | .failed | .cancelled => 3

theorem rank_lt {current target : EditingJobStatus} (h : current.canTransition target = true) :
    current.rank < target.rank := by
  cases current <;> cases target <;> first | decide | cases h

theorem not_canTransition_of_isTerminal {current : EditingJobStatus}
    (h : current.isTerminal = true) (target : EditingJobStatus) :
    current.canTransition target = false := by
  cases current <;> first | rfl | cases h

end EditingJobStatus

structure EditingJobFields where
  jobId : EditingJobId
  projectId : EditingProjectId
  timelineId : TimelineId
  timelineRevision : Nat
  status : EditingJobStatus
  failureCode : Option EditingJobFailureCode
  outputArtifactId : Option ArtifactId
  createdAt : Time
  updatedAt : Time
  deriving DecidableEq, Repr

namespace EditingJobFields

/-- `_validate_facts_match_status`. -/
def factsMatchStatus (j : EditingJobFields) : Bool :=
  match j.status with
  | .succeeded => j.outputArtifactId ≠ none ∧ j.failureCode = none
  | .failed => j.outputArtifactId = none ∧ j.failureCode ≠ none
  | .queued | .running | .cancelling | .cancelled =>
    j.outputArtifactId = none ∧ j.failureCode = none

/-- `EditingJob.__post_init__`.
mirrors editing_job.py:198-231 -/
structure Valid (j : EditingJobFields) : Prop where
  revision_pos : 1 ≤ j.timelineRevision
  ordered : j.createdAt ≤ j.updatedAt
  facts : j.factsMatchStatus = true

instance (j : EditingJobFields) : Decidable j.Valid :=
  decidable_of_iff (1 ≤ j.timelineRevision ∧ j.createdAt ≤ j.updatedAt ∧ j.factsMatchStatus = true)
    ⟨fun ⟨a, b, c⟩ => ⟨a, b, c⟩, fun ⟨a, b, c⟩ => ⟨a, b, c⟩⟩

end EditingJobFields

structure EditingJob extends EditingJobFields where
  valid : toEditingJobFields.Valid
  deriving DecidableEq

inductive EditingJobFailure where
  | alreadyRegistered | revisionAlreadyQueued | timelineRevisionMissing | notFound | stale
  | transitionConflict | dataRejected | invalidModel | invalidQuery
  deriving DecidableEq, Repr

namespace EditingJob

/-- `EditingJob(...)`. -/
def make (j : EditingJobFields) : Except EditingJobFailure EditingJob :=
  if h : j.Valid then .ok ⟨j, h⟩ else .error .invalidModel

/-- `_moved_to`; `replace` runs the constructor again.
mirrors editing_job.py:233-240 -/
def movedTo (j : EditingJob) (status : EditingJobStatus) (updatedAt : Time)
    (failureCode : Option EditingJobFailureCode) (outputArtifactId : Option ArtifactId) :
    Except EditingJobFailure EditingJob :=
  if j.status.canTransition status = false then .error .transitionConflict
  else if updatedAt < j.updatedAt then .error .invalidModel
  else make { j.toEditingJobFields with status, updatedAt, failureCode, outputArtifactId }

def start (j : EditingJob) (updatedAt : Time) : Except EditingJobFailure EditingJob :=
  j.movedTo .running updatedAt j.failureCode j.outputArtifactId

def requestCancel (j : EditingJob) (updatedAt : Time) : Except EditingJobFailure EditingJob :=
  j.movedTo .cancelling updatedAt j.failureCode j.outputArtifactId

def succeed (j : EditingJob) (outputArtifactId : ArtifactId) (updatedAt : Time) :
    Except EditingJobFailure EditingJob :=
  j.movedTo .succeeded updatedAt j.failureCode (some outputArtifactId)

def fail (j : EditingJob) (failureCode : EditingJobFailureCode) (updatedAt : Time) :
    Except EditingJobFailure EditingJob :=
  j.movedTo .failed updatedAt (some failureCode) j.outputArtifactId

def confirmCancelled (j : EditingJob) (updatedAt : Time) : Except EditingJobFailure EditingJob :=
  j.movedTo .cancelled updatedAt j.failureCode j.outputArtifactId

end EditingJob

/-! ## The table -/

/-- A row of `editing_jobs`. -/
structure EditingJobRow extends EditingJobFields where
  installationId : InstallationId
  deriving DecidableEq, Repr

/-- The primary key and the index of queued revisions.
mirrors database/schema.py:2550-2618 -/
instance : Schema EditingJobRow where
  apart a b := a.jobId ≠ b.jobId ∧ ¬(a.status = .queued ∧ b.status = .queued ∧
    a.timelineId = b.timelineId ∧ a.timelineRevision = b.timelineRevision)
  symm h := ⟨h.1.symm, fun h' => h.2 ⟨h'.2.1, h'.1, h'.2.2.1.symm, h'.2.2.2.symm⟩⟩
  irrefl _ h := h.1 rfl
  dec _ _ := inferInstance
  check _ := True
  decCheck _ := .isTrue trivial

namespace EditingJobRow

/-- `_insert_values`. -/
def of (j : EditingJob) (i : InstallationId) : EditingJobRow := ⟨j.toEditingJobFields, i⟩

/-- `_hydrate`. -/
def hydrate (r : EditingJobRow) : Except EditingJobFailure EditingJob :=
  EditingJob.make r.toEditingJobFields

/-- The assignments of `update`: `_mutable_values`. -/
def write (r : EditingJobRow) (changed : EditingJob) : EditingJobRow :=
  { r with
    status := changed.status
    failureCode := changed.failureCode
    outputArtifactId := changed.outputArtifactId
    updatedAt := changed.updatedAt }

/-- The condition of `update`: the version of `previous`. -/
def isVersionOf (previous : EditingJob) (r : EditingJobRow) : Bool :=
  r.jobId = previous.jobId ∧ r.status = previous.status ∧ r.updatedAt = previous.updatedAt

end EditingJobRow

inductive JobEvent where
  | created (row : EditingJobRow)
  | read (job : EditingJob)
  | updated (previous changed : EditingJob) (row : EditingJobRow)

section

variable [UnicodeData]

structure JobStore where
  editing : EditingDb
  jobs : Relation EditingJobRow
  journal : List JobEvent

namespace JobStore

def empty : JobStore := ⟨.empty, .empty, []⟩

def row? (s : JobStore) (j : EditingJobId) : Option EditingJobRow :=
  s.jobs.find? fun r => r.jobId = j

/-- The foreign keys of `editing_jobs`. -/
def References (s : JobStore) (r : EditingJobRow) : Prop :=
  s.editing.Owns r.installationId r.projectId ∧
    ∃ t ∈ s.editing.timelines.rows, t.timelineId = r.timelineId ∧ t.revision = r.timelineRevision ∧
      t.projectId = r.projectId

instance (s : JobStore) (r : EditingJobRow) : Decidable (s.References r) :=
  inferInstanceAs (Decidable (_ ∧ _))

/-- `save`.
mirrors editing_job_repository.py:197-242 -/
def save (s : JobStore) (job : EditingJob) (i : InstallationId) :
    Except EditingJobFailure JobStore :=
  let row := EditingJobRow.of job i
  match s.jobs.insert? row with
  | none =>
    if (s.row? job.jobId).isSome then .error .alreadyRegistered
    else .error .revisionAlreadyQueued
  | some jobs =>
    if s.References row then .ok { s with jobs, journal := .created row :: s.journal }
    else .error .timelineRevisionMissing

/-- `update`: a compare-and-set.
mirrors editing_job_repository.py:314-362 -/
def update (s : JobStore) (previous changed : EditingJob) : Except EditingJobFailure JobStore :=
  if previous.jobId ≠ changed.jobId ∨ previous.status.canTransition changed.status = false ∨
      changed.updatedAt < previous.updatedAt then .error .dataRejected
  else
    match s.jobs.update? (·.isVersionOf previous) (·.write changed) with
    | none => .error .revisionAlreadyQueued
    | some jobs =>
      match s.jobs.find? (·.isVersionOf previous) with
      | some row =>
        .ok { s with jobs, journal := .updated previous changed (row.write changed) :: s.journal }
      | none => if (s.row? changed.jobId).isNone then .error .notFound else .error .stale

/-- `get`.
mirrors editing_job_repository.py:364-374 -/
def get (s : JobStore) (j : EditingJobId) (i : InstallationId) :
    Except EditingJobFailure EditingJob :=
  match s.jobs.find? fun r => r.jobId = j ∧ r.installationId = i with
  | none => .error .notFound
  | some row => row.hydrate

end JobStore

inductive JobOp where
  | save (job : EditingJob) (i : InstallationId)
  | get (j : EditingJobId) (i : InstallationId)
  | update (previous changed : EditingJob)
  /-- The other tables. -/
  | editing (o : EditingOp)

abbrev JobOp.Ret : JobOp → Type
  | .save .. => Except EditingJobFailure Unit
  | .get .. => Except EditingJobFailure EditingJob
  | .update .. => Except EditingJobFailure Unit
  | .editing o => o.Ret

/-- One transaction. -/
def JobStore.exec : (o : JobOp) → JobStore → o.Ret × JobStore
  | .save job i, s =>
    match s.save job i with
    | .ok s' => (.ok (), s')
    | .error e => (.error e, s)
  | .get j i, s =>
    match s.get j i with
    | .ok job => (.ok job, { s with journal := .read job :: s.journal })
    | .error e => (.error e, s)
  | .update previous changed, s =>
    match s.update previous changed with
    | .ok s' => (.ok (), s')
    | .error e => (.error e, s)
  | .editing o, s => ((Editing.exec o s.editing).1, { s with editing := (Editing.exec o s.editing).2 })

/-! ## The service -/

abbrev JobProg := Prog JobOp JobOp.Ret

/-- `newId` is what `EditingJobId.new()` draws, `now` what the clock reads.
mirrors application/editing_jobs.py:294-322 -/
def submit (i : InstallationId) (p : EditingProjectId) (newId : EditingJobId) (now : Time) :
    JobProg (Except EditingJobFailure EditingJob) := do
  match ← Prog.op (JobOp.editing (.latestRevision p i)) with
  | none => pure (.error .timelineRevisionMissing)
  | some current =>
    match EditingJob.make
        { jobId := newId, projectId := p, timelineId := current.timelineId
          timelineRevision := current.revision, status := .queued, failureCode := none
          outputArtifactId := none, createdAt := now, updatedAt := now } with
    | .error e => pure (.error e)
    | .ok job =>
      match ← Prog.op (JobOp.save job i) with
      | .error e => pure (.error e)
      | .ok () => pure (.ok job)

/-- The transition a worker reports.
mirrors application/editing_jobs.py:361-381 -/
def reconciled (current : EditingJob) (status : EditingJobStatus)
    (failureCode : Option EditingJobFailureCode) (outputArtifactId : Option ArtifactId)
    (now : Time) : Except EditingJobFailure EditingJob :=
  match status, failureCode, outputArtifactId with
  | .running, none, none => current.start now
  | .succeeded, none, some artifact => current.succeed artifact now
  | .failed, some code, none => current.fail code now
  | _, _, _ => .error .invalidQuery

/-- mirrors application/editing_jobs.py:337-383 -/
def reconcile (i : InstallationId) (j : EditingJobId) (expectedUpdatedAt : Time)
    (status : EditingJobStatus) (failureCode : Option EditingJobFailureCode)
    (outputArtifactId : Option ArtifactId) (now : Time) :
    JobProg (Except EditingJobFailure EditingJob) := do
  match ← Prog.op (JobOp.get j i) with
  | .error e => pure (.error e)
  | .ok current =>
    if current.updatedAt ≠ expectedUpdatedAt then pure (.error .stale)
    else
      match reconciled current status failureCode outputArtifactId now with
      | .error e => pure (.error e)
      | .ok changed =>
        match ← Prog.op (JobOp.update current changed) with
        | .error e => pure (.error e)
        | .ok () => pure (.ok changed)

/-- What runs on a store: the service, updates by anybody who read a job or made one up, and
whatever happens to timelines, projects and materials. -/
inductive JobOffered : JobProg Unit → Prop where
  | submit (i : InstallationId) (p : EditingProjectId) (newId : EditingJobId) (now : Time) :
      JobOffered (submit i p newId now >>= fun _ => pure ())
  | reconcile (i : InstallationId) (j : EditingJobId) (expectedUpdatedAt : Time)
      (status : EditingJobStatus) (failureCode : Option EditingJobFailureCode)
      (outputArtifactId : Option ArtifactId) (now : Time) :
      JobOffered (reconcile i j expectedUpdatedAt status failureCode outputArtifactId now >>=
        fun _ => pure ())
  | save (job : EditingJob) (i : InstallationId) :
      JobOffered (Prog.op (JobOp.save job i) >>= fun _ => pure ())
  | get (j : EditingJobId) (i : InstallationId) :
      JobOffered (Prog.op (JobOp.get j i) >>= fun _ => pure ())
  | update (previous changed : EditingJob) :
      JobOffered (Prog.op (JobOp.update previous changed) >>= fun _ => pure ())
  | editing (o : EditingOp) : JobOffered (Prog.op (JobOp.editing o) >>= fun _ => pure ())

end
end AutomationTool.Editing
