import AutomationTool.ControlPlane.Database

/-!
# Target previews

The candidate policy, the replacement of a task's preview by a new page, and the two
user operations on it: choosing exclusions and confirming the selection.

* `evaluateDouyinCandidates`: douyin_candidate_policy.py:137-193.
* `evaluateAndReplace`: task_target_repository.py:77-216.
* `replaceExclusions`, `confirm`: infrastructure/database/task_target_preview_repository.py.
-/
namespace AutomationTool.ControlPlane

open Protocol

/-! ## The candidate policy -/

/-- `DOUYIN_CANDIDATE_HISTORY_WINDOW`. -/
def douyinCandidateHistoryWindow : Time := seconds (30 * 86400)

/-- The digest of a platform target id, which is all it depends on. -/
abbrev DouyinCandidateKey := String

abbrev dedupeKey (c : DouyinCandidate) : DouyinCandidateKey := c.platformTargetId

structure DouyinCandidateHistoryFact where
  dedupeKey : DouyinCandidateKey
  observedAt : Time
  deriving DecidableEq

structure DouyinCandidateDecision where
  candidate : DouyinCandidate
  disposition : DouyinCandidateDisposition
  deriving DecidableEq

/-- The loop over the candidates of a page; `seen` are the keys before this one. -/
def classify (recent blacklist : List DouyinCandidateKey) :
    List DouyinCandidateKey → List DouyinCandidate → List DouyinCandidateDecision
  | _, [] => []
  | seen, c :: cs =>
    let disposition :=
      if dedupeKey c ∈ blacklist then .blacklisted
      else if dedupeKey c ∈ seen then .duplicateInTask
      else if dedupeKey c ∈ recent then .duplicateInHistory
      else .eligible
    ⟨c, disposition⟩ :: classify recent blacklist (dedupeKey c :: seen) cs

/-- A page and its history are bounded and consistent. -/
def policyInput (candidates : List DouyinCandidate) (histories : List DouyinCandidateHistoryFact)
    (blacklist : List DouyinCandidateKey) (evaluatedAt : Time) : Prop :=
  candidates.length ≤ maxTaskTargetLimit ∧
    (∀ a ∈ candidates, ∀ b ∈ candidates, a.pageRevision = b.pageRevision) ∧
    histories.length ≤ maxTaskTargetLimit ∧ blacklist.length ≤ maxTaskTargetLimit ∧
    (histories.map DouyinCandidateHistoryFact.dedupeKey).Nodup ∧ blacklist.Nodup ∧
    ∀ h ∈ histories, h.observedAt ≤ evaluatedAt

instance (cs : List DouyinCandidate) (hs : List DouyinCandidateHistoryFact)
    (bs : List DouyinCandidateKey) (t : Time) : Decidable (policyInput cs hs bs t) := by
  unfold policyInput; infer_instance

def evaluateDouyinCandidates (candidates : List DouyinCandidate)
    (histories : List DouyinCandidateHistoryFact) (blacklist : List DouyinCandidateKey)
    (evaluatedAt : Time) : Option (List DouyinCandidateDecision) := do
  guard (policyInput candidates histories blacklist evaluatedAt)
  let recent := (histories.filter fun h =>
    evaluatedAt ≤ h.observedAt + douyinCandidateHistoryWindow).map
      DouyinCandidateHistoryFact.dedupeKey
  return classify recent blacklist [] candidates

/-! ## Replacing a preview -/

namespace TaskTargetRepository

/-- The targets of a task. -/
def targetsOf (db : Db) (t : TaskId) (i : InstallationId) : List TaskTarget :=
  db.taskTargets.rows.filter fun r => r.taskId = t ∧ r.installationId = i

/-- The last sighting of each candidate in the other tasks of the installation. -/
def histories (db : Db) (t : TaskId) (i : InstallationId) (candidates : List DouyinCandidate) :
    List DouyinCandidateHistoryFact :=
  let sighted := fun (k : DouyinCandidateKey) (r : TaskTarget) =>
    decide (r.installationId = i ∧ r.taskId ≠ t ∧ dedupeKey r.candidate = k)
  let keys := (candidates.map dedupeKey).dedup.filter fun k =>
    db.taskTargets.rows.any (sighted k)
  keys.map fun k => ⟨k, db.taskTargets.maxOf (sighted k) TaskTarget.evaluatedAt⟩

/-- The rows of a page, numbered from `ordinal`; `ids` are the new target ids. -/
def rowsOf (t : TaskId) (i : InstallationId) (evaluatedAt : Time) (ids : Nat → TargetId) :
    Nat → List DouyinCandidateDecision → List TaskTarget
  | _, [] => []
  | ordinal, d :: ds =>
    { id := ids ordinal
      taskId := t
      installationId := i
      ordinal := ordinal
      candidate := d.candidate
      disposition := d.disposition
      evaluatedAt := evaluatedAt
      createdAt := evaluatedAt } :: rowsOf t i evaluatedAt ids (ordinal + 1) ds

/-- `DELETE FROM task_targets`: an authorization keeps its target, an exclusion goes
with it. -/
def deleteTargets (db : Db) (t : TaskId) (i : InstallationId) : Option Db := do
  guard (∀ a ∈ db.actionRiskAuthorizations.rows, ¬(a.taskId = t ∧ a.installationId = i))
  return { db with
    taskTargetConfirmations := db.taskTargetConfirmations.deleteWhere fun c =>
      c.taskId = t ∧ c.installationId = i
    taskTargets := db.taskTargets.deleteWhere fun r => r.taskId = t ∧ r.installationId = i
    taskTargetExclusions := db.taskTargetExclusions.deleteWhere fun x =>
      x.taskId = t ∧ x.installationId = i }

/-- The task without a preview. -/
def clearTargets (db : Db) (t : TaskId) (i : InstallationId) : Option Db :=
  if targetsOf db t i = [] then some db else deleteTargets db t i

/-- The preview a page may replace: one older page, evaluated no later. -/
def supersedes (pageRevision : Nat) (evaluatedAt : Time) (existing : List TaskTarget) : Prop :=
  (∀ a ∈ existing, ∀ b ∈ existing,
      a.pageRevision = b.pageRevision ∧ a.evaluatedAt = b.evaluatedAt) ∧
    ∀ a ∈ existing, a.pageRevision < pageRevision ∧ a.evaluatedAt ≤ evaluatedAt

instance (p : Nat) (e : Time) (rs : List TaskTarget) : Decidable (supersedes p e rs) := by
  unfold supersedes; infer_instance

def evaluateAndReplace (t : TaskId) (i : InstallationId) (candidates : List DouyinCandidate)
    (blacklist : List DouyinCandidateKey) (evaluatedAt : Time) (ids : Nat → TargetId)
    (db : Db) : Option Db := do
  let _initial ← evaluateDouyinCandidates candidates [] blacklist evaluatedAt
  let first ← candidates.head?
  guard (db.active i)
  let parent ← db.task? t i
  guard (parent.createdAt ≤ evaluatedAt)
  guard (supersedes first.pageRevision evaluatedAt (targetsOf db t i))
  let evaluation ← evaluateDouyinCandidates candidates (histories db t i candidates) blacklist
    evaluatedAt
  let cleared ← clearTargets db t i
  let taskTargets ← cleared.taskTargets.insertAll? (rowsOf t i evaluatedAt ids 1 evaluation)
  return { cleared with taskTargets }

end TaskTargetRepository

/-! ## The user's selection -/

/-- mirrors application/task_target_previews.py:258-301 -/
structure PendingTaskTargetExclusions where
  sourceMessageId : MessageId
  installationId : InstallationId
  taskId : TaskId
  pageRevision : Nat
  expectedTaskRevision : Nat
  excludedTargetIds : List TargetId
  idempotencyKey : IdempotencyKey
  requestedAt : Time
  page_mem : 1 ≤ pageRevision ∧ pageRevision ≤ maxExecutorSequence := by decide
  revision_mem : 1 ≤ expectedTaskRevision ∧ expectedTaskRevision ≤ maxExecutorSequence := by decide
  excluded_le : excludedTargetIds.length ≤ maxTaskTargetLimit := by decide
  excluded_nodup : excludedTargetIds.Nodup := by decide
  deriving DecidableEq

def PendingTaskTargetExclusions.fingerprint (p : PendingTaskTargetExclusions) :
    SourceFingerprint :=
  .replaceExclusions p.installationId p.taskId p.pageRevision p.expectedTaskRevision
    p.excludedTargetIds

/-- mirrors application/task_target_previews.py:303-341 -/
structure PendingTaskTargetConfirmation where
  sourceMessageId : MessageId
  installationId : InstallationId
  taskId : TaskId
  pageRevision : Nat
  expectedTaskRevision : Nat
  idempotencyKey : IdempotencyKey
  requestedAt : Time
  page_mem : 1 ≤ pageRevision ∧ pageRevision ≤ maxExecutorSequence := by decide
  revision_mem : 1 ≤ expectedTaskRevision ∧ expectedTaskRevision ≤ maxExecutorSequence := by decide
  deriving DecidableEq

def PendingTaskTargetConfirmation.fingerprint (p : PendingTaskTargetConfirmation) :
    SourceFingerprint :=
  .confirm p.installationId p.taskId p.pageRevision p.expectedTaskRevision

structure TaskTargetPreviewItem where
  target : TaskTarget
  userExcluded : Bool
  deriving DecidableEq

/-- mirrors application/task_target_previews.py:109-168 -/
structure TaskTargetPreviewSnapshot where
  task : Task
  pageRevision : Nat
  confirmationRevision : Nat
  action : DouyinSearchExposureAction
  messageTemplate : Option String
  items : List TaskTargetPreviewItem
  selectedTargetCount : Nat
  userExcludedTargetCount : Nat
  confirmedAt : Option Time
  deriving DecidableEq

/-- The statuses in which no confirmation may stand. -/
def isUnconfirmed : TaskStatus → Bool
  | .draft | .validating | .discoveringTargets | .awaitingConfirmation => true
  | _ => false

/-- `__post_init__` of the snapshot. -/
def TaskTargetPreviewSnapshot.Valid (s : TaskTargetPreviewSnapshot) : Prop :=
  1 ≤ s.pageRevision ∧ s.pageRevision ≤ maxExecutorSequence ∧
    1 ≤ s.confirmationRevision ∧ s.confirmationRevision ≤ maxExecutorSequence ∧
    (∀ x ∈ s.items, x.userExcluded = true → x.target.disposition = .eligible) ∧
    s.selectedTargetCount + s.userExcludedTargetCount ≤ maxTaskTargetLimit ∧
    match s.confirmedAt with
    | none => s.task.status = .awaitingConfirmation ∧ s.confirmationRevision = s.task.revision
    | some _ => s.confirmationRevision < s.task.revision ∧ isUnconfirmed s.task.status = false

instance (s : TaskTargetPreviewSnapshot) : Decidable s.Valid := by
  unfold TaskTargetPreviewSnapshot.Valid
  cases s.confirmedAt <;> infer_instance

namespace TaskTargetPreviewRepository

open TaskTargetRepository

/-- `ORDER BY ordinal, id`. -/
def inOrder (rs : List TaskTarget) : List TaskTarget :=
  rs.insertionSort fun a b => toLex (a.ordinal, a.id) ≤ toLex (b.ordinal, b.id)

/-- The rows of one page, in order. -/
def pageOf (db : Db) (t : TaskId) (i : InstallationId) (pageRevision : Nat) : List TaskTarget :=
  inOrder ((targetsOf db t i).filter fun r => r.pageRevision = pageRevision)

/-- The user took the target out of the selection. -/
def excluded (db : Db) (r : TaskTarget) : Prop :=
  ∃ x ∈ db.taskTargetExclusions.rows, x.targetId = r.id ∧ x.taskId = r.taskId ∧
    x.installationId = r.installationId ∧ x.pageRevision = r.pageRevision

instance (db : Db) (r : TaskTarget) : Decidable (excluded db r) := by
  unfold excluded; infer_instance

/-- The targets of a page that are eligible and not excluded, in order. -/
def selected (db : Db) (t : TaskId) (i : InstallationId) (pageRevision : Nat) : List TaskTarget :=
  (pageOf db t i pageRevision).filter fun r => r.disposition = .eligible ∧ ¬excluded db r

/-- `_selected_target_ids`. mirrors task_target_preview_repository.py:436-462 -/
def selectedTargetIds (db : Db) (t : TaskId) (i : InstallationId) (pageRevision : Nat) :
    List TargetId := (selected db t i pageRevision).map TaskTarget.id

/-- `_page_bounds` is `(page, page)`. -/
def onlyPage (db : Db) (t : TaskId) (i : InstallationId) (pageRevision : Nat) : Prop :=
  targetsOf db t i ≠ [] ∧ ∀ r ∈ targetsOf db t i, r.pageRevision = pageRevision

instance (db : Db) (t : TaskId) (i : InstallationId) (p : Nat) : Decidable (onlyPage db t i p) := by
  unfold onlyPage; infer_instance

/-- `_confirmation_intent`; `none` when the intent is not valid. -/
def confirmationIntent? (i : InstallationId) (t : TaskId) (pageRevision confirmationRevision : Nat)
    (definition : Definition) (ids : List TargetId) : Option TaskTargetConfirmationIntent :=
  let intent : TaskTargetConfirmationIntent :=
    ⟨i, t, pageRevision, confirmationRevision, definition.action, definition.messageTemplate, ids⟩
  if intent.Valid then some intent else none

/-- A stored confirmation is the digest of the intent as it is now. -/
def confirms (confirmation : TaskTargetConfirmation) (intent : TaskTargetConfirmationIntent) :
    Prop :=
  confirmation.action = intent.action ∧ confirmation.messageTemplate = intent.messageTemplate ∧
    confirmation.intentFingerprint = intent ∧
    confirmation.selectedTargetCount = intent.selectedTargetIds.length

instance (c : TaskTargetConfirmation) (i : TaskTargetConfirmationIntent) :
    Decidable (confirms c i) := by
  unfold confirms; infer_instance

/-- The revision, action and template a snapshot shows: the definition's, or those
of a confirmation that still matches. -/
def shown? (db : Db) (task : Task) (pageRevision : Nat) (definition : Definition) :
    Option TaskTargetConfirmation → Option (Nat × DouyinSearchExposureAction × Option String)
  | none => some (task.revision, definition.action, definition.messageTemplate)
  | some confirmation => do
    let intent ← confirmationIntent? task.installationId task.id pageRevision
      confirmation.selectionTaskRevision definition
      (selectedTargetIds db task.id task.installationId pageRevision)
    guard (confirms confirmation intent)
    return (intent.confirmationRevision, intent.action, intent.messageTemplate)

/-- `_read_snapshot` of the first page, as both operations end with it.
mirrors task_target_preview_repository.py:488-640 -/
def readSnapshot (i : InstallationId) (t : TaskId) (pageRevision expectedTaskRevision : Nat)
    (db : Db) : Option TaskTargetPreviewSnapshot := do
  let task ← db.task? t i
  guard (task.revision = expectedTaskRevision)
  guard (onlyPage db t i pageRevision)
  let definition ← db.definition? t i
  let confirmation := (db.confirmation? t i).filter fun c => c.pageRevision = pageRevision
  let rows := pageOf db t i pageRevision
  let (revision, action, messageTemplate) ← shown? db task pageRevision definition confirmation
  let snapshot : TaskTargetPreviewSnapshot :=
    { task := task
      pageRevision := pageRevision
      confirmationRevision := revision
      action := action
      messageTemplate := messageTemplate
      items := (rows.take 101).map fun r => ⟨r, excluded db r⟩
      selectedTargetCount := (selected db t i pageRevision).length
      userExcludedTargetCount := rows.countP fun r => excluded db r
      confirmedAt := confirmation.map TaskTargetConfirmation.confirmedAt }
  guard (snapshot.Valid)
  return snapshot

/-- What a repeated request is compared by. -/
structure PreviewRequest where
  installationId : InstallationId
  taskId : TaskId
  idempotencyKey : IdempotencyKey
  eventType : TaskEventType
  fingerprint : SourceFingerprint

/-- `_matching_event_replay`: `none` when the key was used for something else.
mirrors task_target_preview_repository.py:643-672 -/
def matchingEventReplay (request : PreviewRequest) (currentTaskRevision : Nat) (db : Db) :
    Option Bool :=
  match db.eventByKey? request.installationId request.idempotencyKey with
  | none => some false
  | some event => do
    guard (event.taskId = request.taskId ∧ event.eventType = request.eventType ∧
      event.sourceFingerprint = request.fingerprint ∧ event.taskRevision = currentTaskRevision)
    return true

/-- The attempt a confirmation clears is over. -/
def mayClear (db : Db) (task : Task) : Prop :=
  ∀ e ∈ task.currentAttemptId,
    ∃ a ∈ db.attempt? e task.id task.installationId, a.status.isTerminal = true

instance (db : Db) (task : Task) : Decidable (mayClear db task) := by
  unfold mayClear; infer_instance

/-- The event both operations append, and what it moves the task to. -/
structure PreviewEvent where
  sourceMessageId : MessageId
  idempotencyKey : IdempotencyKey
  fingerprint : SourceFingerprint
  eventType : TaskEventType
  targetStatus : TaskStatus
  occurredAt : Time
  clearCurrentAttempt : Bool

def PreviewEvent.row (e : PreviewEvent) (task : Task) : TaskEvent where
  taskId := task.id
  installationId := task.installationId
  sequence := task.lastEventSequence + 1
  eventType := e.eventType
  taskRevision := task.revision + 1
  taskStatus := e.targetStatus
  executionAttemptId := none
  actionId := none
  sourceMessageId := some e.sourceMessageId
  sourceIdempotencyKey := e.idempotencyKey
  sourceFingerprint := e.fingerprint
  progressPercent := none
  occurredAt := e.occurredAt
  recordedAt := e.occurredAt

def PreviewEvent.move (e : PreviewEvent) (task : Task) : Task :=
  { task with
    status := e.targetStatus
    revision := task.revision + 1
    lastEventSequence := task.lastEventSequence + 1
    currentAttemptId := if e.clearCurrentAttempt then none else task.currentAttemptId
    updatedAt := e.occurredAt }

/-- `_append_preview_event`. mirrors task_target_preview_repository.py:697-782 -/
def appendPreviewEvent (e : PreviewEvent) (task : Task) (db : Db) : Option Db := do
  guard (e.targetStatus ≠ task.status →
    TaskStateMachine.canTransition task.status e.targetStatus = true)
  guard (e.clearCurrentAttempt = true → mayClear db task)
  let taskEvents ← db.taskEvents.insert? (e.row task)
  let tasks ← db.tasks.replace? task (e.move task)
  return { db with taskEvents, tasks }

/-- A mutation's reply: the preview afterwards, and whether it was a repetition. -/
structure TaskTargetPreviewMutationResult where
  snapshot : TaskTargetPreviewSnapshot
  replayed : Bool
  deriving DecidableEq

/-- The exclusions of a page. -/
def exclusionsOf (db : Db) (t : TaskId) (i : InstallationId) (pageRevision : Nat) :
    List TargetId :=
  (db.taskTargetExclusions.rows.filter fun x => x.taskId = t ∧ x.installationId = i ∧
    x.pageRevision = pageRevision).map TaskTargetExclusion.targetId

def exclusionRow (pending : PendingTaskTargetExclusions) (r : TargetId) : TaskTargetExclusion where
  targetId := r
  taskId := pending.taskId
  installationId := pending.installationId
  pageRevision := pending.pageRevision
  excludedAt := pending.requestedAt

def exclusionsEvent (pending : PendingTaskTargetExclusions) : PreviewEvent where
  sourceMessageId := pending.sourceMessageId
  idempotencyKey := pending.idempotencyKey
  fingerprint := pending.fingerprint
  eventType := .taskTargetSelectionUpdated
  targetStatus := .awaitingConfirmation
  occurredAt := pending.requestedAt
  clearCurrentAttempt := false

/-- mirrors task_target_preview_repository.py:83-173 -/
def replaceExclusions (pending : PendingTaskTargetExclusions) (db : Db) :
    Option (TaskTargetPreviewMutationResult × Db) := do
  guard (db.active pending.installationId)
  let task ← db.task? pending.taskId pending.installationId
  guard (task.status = .awaitingConfirmation)
  guard (onlyPage db pending.taskId pending.installationId pending.pageRevision)
  guard (pending.expectedTaskRevision ≤ task.revision)
  let replay ← matchingEventReplay ⟨pending.installationId, pending.taskId,
    pending.idempotencyKey, .taskTargetSelectionUpdated, pending.fingerprint⟩ task.revision db
  if replay then
    let current := exclusionsOf db pending.taskId pending.installationId pending.pageRevision
    guard (∀ r, r ∈ current ++ pending.excludedTargetIds →
      r ∈ current ∧ r ∈ pending.excludedTargetIds)
    let snapshot ← readSnapshot pending.installationId pending.taskId pending.pageRevision
      task.revision db
    return (⟨snapshot, true⟩, db)
  else
    guard (task.revision = pending.expectedTaskRevision)
    guard (∀ r ∈ pending.excludedTargetIds,
      ∃ x ∈ targetsOf db pending.taskId pending.installationId,
        x.id = r ∧ x.pageRevision = pending.pageRevision ∧ x.disposition = .eligible)
    guard (task.updatedAt ≤ pending.requestedAt)
    let cleared := db.taskTargetExclusions.deleteWhere fun x => x.taskId = pending.taskId ∧
      x.installationId = pending.installationId ∧ x.pageRevision = pending.pageRevision
    let taskTargetExclusions ← cleared.insertAll?
      (pending.excludedTargetIds.map (exclusionRow pending))
    let db' ← appendPreviewEvent (exclusionsEvent pending) task { db with taskTargetExclusions }
    let snapshot ← readSnapshot pending.installationId pending.taskId pending.pageRevision
      (task.revision + 1) db'
    return (⟨snapshot, false⟩, db')

def confirmationRow (pending : PendingTaskTargetConfirmation)
    (intent : TaskTargetConfirmationIntent) : TaskTargetConfirmation where
  taskId := pending.taskId
  installationId := pending.installationId
  pageRevision := pending.pageRevision
  selectionTaskRevision := pending.expectedTaskRevision
  confirmedTaskRevision := pending.expectedTaskRevision + 1
  selectedTargetCount := intent.selectedTargetIds.length
  action := intent.action
  messageTemplate := intent.messageTemplate
  intentFingerprint := intent
  sourceMessageId := pending.sourceMessageId
  sourceIdempotencyKey := pending.idempotencyKey
  sourceFingerprint := pending.fingerprint
  confirmedAt := pending.requestedAt
  createdAt := pending.requestedAt

def confirmationEvent (pending : PendingTaskTargetConfirmation) : PreviewEvent where
  sourceMessageId := pending.sourceMessageId
  idempotencyKey := pending.idempotencyKey
  fingerprint := pending.fingerprint
  eventType := .taskTargetsConfirmed
  targetStatus := .queued
  occurredAt := pending.requestedAt
  clearCurrentAttempt := true

/-- mirrors task_target_preview_repository.py:175-301 -/
def confirm (pending : PendingTaskTargetConfirmation) (db : Db) :
    Option (TaskTargetPreviewMutationResult × Db) := do
  guard (db.active pending.installationId)
  let task ← db.task? pending.taskId pending.installationId
  let replay ← matchingEventReplay ⟨pending.installationId, pending.taskId,
    pending.idempotencyKey, .taskTargetsConfirmed, pending.fingerprint⟩ task.revision db
  if replay then
    guard (∃ c ∈ db.confirmation? pending.taskId pending.installationId,
      c.pageRevision = pending.pageRevision ∧
        c.selectionTaskRevision = pending.expectedTaskRevision)
    let snapshot ← readSnapshot pending.installationId pending.taskId pending.pageRevision
      task.revision db
    return (⟨snapshot, true⟩, db)
  else
    guard (task.status = .awaitingConfirmation ∧ task.revision = pending.expectedTaskRevision ∧
      task.updatedAt ≤ pending.requestedAt)
    guard (onlyPage db pending.taskId pending.installationId pending.pageRevision)
    let ids := selectedTargetIds db pending.taskId pending.installationId pending.pageRevision
    guard (ids ≠ [])
    let definition ← db.definition? pending.taskId pending.installationId
    let intent ← confirmationIntent? pending.installationId pending.taskId pending.pageRevision
      pending.expectedTaskRevision definition ids
    let taskTargetConfirmations ← db.taskTargetConfirmations.insert?
      (confirmationRow pending intent)
    let db' ← appendPreviewEvent (confirmationEvent pending) task
      { db with taskTargetConfirmations }
    let snapshot ← readSnapshot pending.installationId pending.taskId pending.pageRevision
      (task.revision + 1) db'
    return (⟨snapshot, false⟩, db')

end TaskTargetPreviewRepository
end AutomationTool.ControlPlane
