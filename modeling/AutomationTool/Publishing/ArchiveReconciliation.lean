import AutomationTool.Publishing.Service

/-!
# Reconciling an attempt with the platform

The methods of the reconciliation service. An attempt whose archive is known is looked up;
one whose creation answer was lost is searched for in the list of the account's archives,
page by page (`walk`), and settled as failed when the list has no candidate.
mirrors control_plane/application/bilibili_archive_reconciliation.py
-/
namespace AutomationTool.Publishing

open Protocol

/-- mirrors bilibili_archive_reconciliation.py:111-124 -/
inductive BilibiliReconciliationDecision where
  | inReview | published | rejected | failedAbsent | ambiguousMatch | stillUncertain
  | archiveMissing | rateLimited | queryUnreachable | queryRejected | alreadySettled
  deriving DecidableEq, Repr

/-- mirrors bilibili_archive_reconciliation.py:132-154 -/
structure BilibiliReconciliationPolicy where
  pollIntervalSeconds : Nat := 60
  unreachableRetrySeconds : Nat := 60
  rateLimitBackoffSeconds : Nat := 300
  attentionIntervalSeconds : Nat := 900
  matchCtimeSkewSeconds : Nat := 600
  maxListPages : Nat := 100
  positive : 1 ≤ pollIntervalSeconds ∧ 1 ≤ unreachableRetrySeconds ∧
    1 ≤ rateLimitBackoffSeconds ∧ 1 ≤ attentionIntervalSeconds ∧ 1 ≤ matchCtimeSkewSeconds ∧
    1 ≤ maxListPages := by decide

/-- `_delay_for`. -/
def BilibiliReconciliationPolicy.delayFor (policy : BilibiliReconciliationPolicy) :
    BilibiliReconciliationDecision → Nat
  | .inReview | .stillUncertain => policy.pollIntervalSeconds
  | .queryUnreachable | .queryRejected => policy.unreachableRetrySeconds
  | .rateLimited => policy.rateLimitBackoffSeconds
  | .ambiguousMatch | .archiveMissing => policy.attentionIntervalSeconds
  | .published | .rejected | .failedAbsent | .alreadySettled => 0

/-- Where the publish job goes from here. -/
inductive PublishJobTarget where
  | published | rejected | failed
  deriving DecidableEq, Repr

/-- `publish_job_target_for`: the statuses a settled job is moved to, each of which the job's
state machine allows from `DISPATCHING` and from `OUTCOME_UNCERTAIN`. -/
def publishJobTargetFor : BilibiliReconciliationOutcome → Option PublishJobTarget
  | .pending => none
  | .published => some .published
  | .rejected => some .rejected
  | .failed => some .failed

structure BilibiliReconciliationResult where
  publishJobId : PublishJobId
  decision : BilibiliReconciliationDecision
  outcome : BilibiliReconciliationOutcome
  publishJobTarget : Option PublishJobTarget
  resourceId : Option ResourceId
  archiveState : Option Int
  nextCheckDelaySeconds : Nat
  deriving DecidableEq

/-- `_result`. -/
def result (policy : BilibiliReconciliationPolicy) (j : PublishJobId)
    (decision : BilibiliReconciliationDecision) (record : BilibiliReconciliationRecord) :
    BilibiliReconciliationResult where
  publishJobId := j
  decision := decision
  outcome := record.outcome
  publishJobTarget := publishJobTargetFor record.outcome
  resourceId := record.resourceId
  archiveState := record.archiveState
  nextCheckDelaySeconds := policy.delayFor decision

/-! ## Queries -/

/-- The decisions a failed query comes to. -/
inductive QuerySetback where
  | rateLimited | archiveMissing | queryUnreachable | queryRejected
  deriving DecidableEq, Repr

def QuerySetback.decision : QuerySetback → BilibiliReconciliationDecision
  | .rateLimited => .rateLimited
  | .archiveMissing => .archiveMissing
  | .queryUnreachable => .queryUnreachable
  | .queryRejected => .queryRejected

/-- `_setback_for_rejection`. -/
def setbackForRejection (archiveBound : Bool) (rejection : BilibiliPlatformRejection) :
    QuerySetback :=
  if rejection.category = .rateLimited then .rateLimited
  else if archiveBound ∧ rejection.category = .archiveConflict then .archiveMissing
  else .queryRejected

/-- An answer of the query surface: a rejection, the data, or a setback. -/
def queried {α : Type} (contract : BilibiliOpenApiContract) :
    GatewayAnswer α → Except QuerySetback (Except BilibiliPlatformRejection α)
  | .unreachable | .malformed => .error .queryUnreachable
  | .rejected code =>
    match classifyErrorCode contract code with
    | none => .error .queryUnreachable
    | some rejection => .ok (.error rejection)
  | .data a => .ok (.ok a)

/-- What becomes of the first answer: a rejected token is refreshed, and the query repeated. -/
def requeried {α : Type} (contract : BilibiliOpenApiContract) (archiveBound : Bool)
    (q : Service (GatewayAnswer α)) (answer : GatewayAnswer α) :
    Service (Except QuerySetback α) :=
  match queried contract answer with
  | .error setback => pure (.error setback)
  | .ok (.ok a) => pure (.ok a)
  | .ok (.error rejection) =>
    if rejection.category = .authRejected then do
      ask .refreshAccessToken
      let answer ← q
      match queried contract answer with
      | .error setback => pure (.error setback)
      | .ok (.ok a) => pure (.ok a)
      | .ok (.error rejection) => pure (.error (setbackForRejection archiveBound rejection))
    else pure (.error (setbackForRejection archiveBound rejection))

/-- A query, repeated once with a refreshed token when the platform rejects the first. -/
def authorizedQuery {α : Type} (contract : BilibiliOpenApiContract) (archiveBound : Bool)
    (q : Service (GatewayAnswer α)) : Service (Except QuerySetback α) := do
  let answer ← q
  requeried contract archiveBound q answer

/-- `_query_view`. -/
def queryView (contract : BilibiliOpenApiContract) (resourceId : ResourceId) :
    Service (Except QuerySetback ArchiveStatusSnapshot) := do
  ask .currentAccessToken
  match ← authorizedQuery contract true (ask (.archiveView resourceId)) with
  | .error setback => pure (.error setback)
  | .ok snapshot =>
    if snapshot.resourceId ≠ resourceId then pure (.error .queryUnreachable)
    else pure (.ok snapshot)

/-! ## The search for a lost archive -/

/-- `_is_candidate`. A moment is in microseconds, the creation of an archive in seconds. -/
def isCandidate (policy : BilibiliReconciliationPolicy) (attempt : BilibiliPublishAttemptRecord)
    (item : ArchiveStatusSnapshot) : Bool :=
  match attempt.dispatchedAt with
  | none => false
  | some dispatchedAt =>
    item.title = attempt.fields.title ∧
      ((dispatchedAt / 1000000 : Nat) : Int) - policy.matchCtimeSkewSeconds ≤
        item.createdAtEpochSeconds

/-- What the search came to. -/
inductive Located where
  | archive (resourceId : ResourceId)
  | absent
  | setback (decision : BilibiliReconciliationDecision)
  deriving DecidableEq

/-- The end of the loop. -/
def conclude (expectedTotal seen : Nat) (candidates : List ArchiveStatusSnapshot) : Located :=
  if seen < expectedTotal then .setback .stillUncertain
  else
    match candidates with
    | [] => .absent
    | [candidate] => .archive candidate.resourceId
    | _ => .setback .ambiguousMatch

/-- The loop of `_locate_uncertain_archive`, with `pages` of the allowed pages left.
mirrors bilibili_archive_reconciliation.py:641-668 -/
def walk {m : Type → Type} [Monad m] (isCandidate : ArchiveStatusSnapshot → Bool)
    (listPage : Nat → m (Except QuerySetback ArchiveListPage)) :
    Nat → Nat → Option Nat → Nat → List ArchiveStatusSnapshot → m Located
  | 0, _, _, _, _ => pure (.setback .stillUncertain)
  | pages + 1, pageNumber, expectedTotal, seen, candidates => do
    match ← listPage pageNumber with
    | .error setback => pure (.setback setback.decision)
    | .ok page =>
      if expectedTotal.getD page.total ≠ page.total ∨ page.pageSize < page.items.length then
        pure (.setback .stillUncertain)
      else
        let seen := seen + page.items.length
        let candidates := candidates ++ page.items.filter isCandidate
        if page.total ≤ seen ∨ page.items = [] then pure (conclude page.total seen candidates)
        else walk isCandidate listPage pages (pageNumber + 1) (some page.total) seen candidates

/-- mirrors bilibili_archive_reconciliation.py:634-673 -/
def locateUncertainArchive (contract : BilibiliOpenApiContract)
    (policy : BilibiliReconciliationPolicy) (j : PublishJobId)
    (attempt : BilibiliPublishAttemptRecord) : Service Located := do
  ask .currentAccessToken
  match ← walk (isCandidate policy attempt)
      (fun n => authorizedQuery contract false (ask (.archiveViewlist j n)))
      policy.maxListPages 1 none 0 [] with
  | .archive resourceId => do
    let now ← ask .now
    call (.adoptResourceId j resourceId now)
    pure (.archive resourceId)
  | .absent => pure .absent
  | .setback decision => pure (.setback decision)

/-! ## One tick -/

/-- `_load_record`. -/
def loadRecord (j : PublishJobId) : Service BilibiliReconciliationRecord := do
  match ← call (.loadReconciliation j) with
  | none => throw .rejected
  | some record => pure record

/-- `_settle`. -/
def settleAs (policy : BilibiliReconciliationPolicy) (j : PublishJobId)
    (decision : BilibiliReconciliationDecision) (outcome : BilibiliReconciliationOutcome)
    (archiveState : Option Int) (failureCode : Option PublishFailureCode) :
    Service BilibiliReconciliationResult := do
  let now ← ask .now
  let settled ← call (.settle j outcome archiveState failureCode now)
  let record ← loadRecord j
  pure (result policy j (if settled then decision else .alreadySettled) record)

/-- The handler of a setback. -/
def setBack (policy : BilibiliReconciliationPolicy) (j : PublishJobId)
    (decision : BilibiliReconciliationDecision) : Service BilibiliReconciliationResult := do
  let current ← loadRecord j
  pure (result policy j (if current.outcome = .pending then decision else .alreadySettled) current)

/-- What an archive's state decides. -/
def decideOn (policy : BilibiliReconciliationPolicy) (j : PublishJobId)
    (snapshot : ArchiveStatusSnapshot) : Service BilibiliReconciliationResult :=
  if snapshot.state = archiveStateOpen then
    settleAs policy j .published .published (some snapshot.state) none
  else if snapshot.state = archiveStateRejected then
    settleAs policy j .rejected .rejected (some snapshot.state) none
  else do
    let now ← ask .now
    call (.recordChecked j (some snapshot.state) now)
    let refreshed ← loadRecord j
    pure (result policy j .inReview refreshed)

/-- The archive of the attempt is known. -/
def lookUp (contract : BilibiliOpenApiContract) (policy : BilibiliReconciliationPolicy)
    (j : PublishJobId) (resourceId : ResourceId) : Service BilibiliReconciliationResult := do
  match ← queryView contract resourceId with
  | .error setback => setBack policy j setback.decision
  | .ok snapshot => decideOn policy j snapshot

/-- The archive of the attempt is not known. -/
def search (contract : BilibiliOpenApiContract) (policy : BilibiliReconciliationPolicy)
    (j : PublishJobId) (attempt : BilibiliPublishAttemptRecord) :
    Service BilibiliReconciliationResult := do
  match ← locateUncertainArchive contract policy j attempt with
  | .archive resourceId => lookUp contract policy j resourceId
  | .absent => settleAs policy j .failedAbsent .failed none (some .platformError)
  | .setback decision => setBack policy j decision

/-- A dispatched attempt is fenced, any other must be reconcilable. -/
def fence (j : PublishJobId) (attempt : BilibiliPublishAttemptRecord) : Service Unit :=
  if attempt.phase = .dispatched then do
    let now ← ask .now
    call (.recordOutcomeUncertain j now)
  else if PublishDb.isReconcilable attempt.phase then pure ()
  else throw .rejected

/-- mirrors bilibili_archive_reconciliation.py:429-491 -/
def reconcileOnce (contract : BilibiliOpenApiContract) (policy : BilibiliReconciliationPolicy)
    (j : PublishJobId) : Service BilibiliReconciliationResult := do
  let record ← loadRecord j
  if record.outcome ≠ .pending then pure (result policy j .alreadySettled record)
  else
    match ← call (.load j) with
    | none => throw .rejected
    | some attempt => do
      fence j attempt
      match record.resourceId.or attempt.resourceId with
      | some resourceId => lookUp contract policy j resourceId
      | none => search contract policy j attempt

/-- mirrors bilibili_archive_reconciliation.py:493-527 -/
def applyNotification (policy : BilibiliReconciliationPolicy)
    (notification : ArchiveStatusNotification) : Service (Option BilibiliReconciliationResult) := do
  match ← call (.findByResourceId notification.resourceId) with
  | none => pure none
  | some record =>
    if record.outcome ≠ .pending then
      pure (some (result policy record.publishJobId .alreadySettled record))
    else if notification.state = archiveStateOpen then
      some <$> settleAs policy record.publishJobId .published .published (some notification.state)
        none
    else if notification.state = archiveStateRejected then
      some <$> settleAs policy record.publishJobId .rejected .rejected (some notification.state) none
    else throw .rejected

/-- The loop of `recover`. -/
def recoverEach : List BilibiliPublishAttemptRecord → Service (List PublishJobId)
  | [] => pure []
  | attempt :: attempts =>
    if PublishDb.isReconcilable attempt.phase = false then throw .unavailable
    else do
      fence attempt.publishJobId attempt
      let now ← ask .now
      let record ← call (.ensurePending attempt.publishJobId attempt.resourceId now)
      let queue ← recoverEach attempts
      pure (if record.outcome = .pending then attempt.publishJobId :: queue else queue)

/-- mirrors bilibili_archive_reconciliation.py:402-427 -/
def recover : Service (List PublishJobId) := do
  let attempts ← call .listReconcilable
  recoverEach attempts

end AutomationTool.Publishing
