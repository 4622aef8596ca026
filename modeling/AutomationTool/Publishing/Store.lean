import AutomationTool.Core.Table
import AutomationTool.Publishing.OpenApi

/-!
# The Bilibili attempt and reconciliation stores

The rows of one publish attempt per job, of its uploaded parts and of its reconciliation,
and one definition for each operation of the two stores. An operation is one transaction;
what it raises is its `Except`. A row that the record's constructor refuses (`Valid`)
cannot be read back. The tables have no `CHECK`s (`create_schema` drops them).

* `attempt?_guardedUpdate`, `reconciliation?_pendingUpdate`: what an `UPDATE` of one job
  does to the row of any job.
mirrors control_plane/infrastructure/database/bilibili_publish_repository.py
-/
namespace AutomationTool.Publishing

open Protocol

abbrev PublishJobId := Nat
abbrev UploadToken := List Char
/-- An address that starts with https, as the parser of the cover answer wants it. -/
abbrev CoverUrl := List Char
/-- 64 hexadecimal digits. -/
abbrev Sha256 := Nat

/-- What a service method raises. -/
inductive BilibiliPublishError where
  | rejected | unavailable | unreachable | invalidMessage
  | stepFailed (rejection : BilibiliPlatformRejection)
  | outcomeUncertain
  deriving DecidableEq

/-- mirrors bilibili_archive_publishing.py:88-96 -/
inductive BilibiliPublishPhase where
  | prepared | videoUploaded | dispatched | submitted | failed | outcomeUncertain
  deriving DecidableEq, Repr

/-- mirrors bilibili_archive_publishing.py:124-151 -/
@[ext] structure BilibiliPublishMaterial where
  fileName : List Char
  sizeBytes : Nat
  durationSeconds : Nat
  sha256 : Sha256
  name_ok : 1 ≤ fileName.length ∧ fileName.length ≤ 255 ∧ fileNamePattern fileName = true ∧
    fileName.head? ≠ some '.' := by decide
  size_pos : 1 ≤ sizeBytes := by decide
  duration_pos : 1 ≤ durationSeconds := by decide

instance : DecidableEq BilibiliPublishMaterial := fun _ _ => decidable_of_iff' _ BilibiliPublishMaterial.ext_iff

def BilibiliPublishMaterial.extension (m : BilibiliPublishMaterial) : List Char :=
  (fileExtension m.fileName).map Char.toLower

/-- The request a digest is computed from. The digest stands for it. -/
structure RequestContent where
  publishJobId : PublishJobId
  material : BilibiliPublishMaterial
  fields : BilibiliArchiveFields
  withCover : Bool
  deriving DecidableEq

/-! ## Attempts -/

/-- mirrors bilibili_archive_publishing.py:193-290 -/
structure BilibiliPublishAttemptRecord where
  publishJobId : PublishJobId
  phase : BilibiliPublishPhase
  requestDigest : RequestContent
  material : BilibiliPublishMaterial
  fields : BilibiliArchiveFields
  uploadType : BilibiliUploadType
  partSizeBytes : Nat
  partCount : Nat
  hasCover : Bool
  uploadToken : Option UploadToken
  coverUrl : Option CoverUrl
  videoUploadedAt : Option Time
  dispatchedAt : Option Time
  settledAt : Option Time
  resourceId : Option ResourceId
  failureCode : Option PublishFailureCode
  platformErrorCode : Option Nat
  createdAt : Time
  updatedAt : Time
  deriving DecidableEq

namespace BilibiliPublishAttemptRecord

/-- The moments a phase has behind it. -/
def momentsFit (r : BilibiliPublishAttemptRecord) : Bool :=
  match r.phase with
  | .prepared => r.videoUploadedAt = none ∧ r.dispatchedAt = none ∧ r.settledAt = none
  | .videoUploaded => r.videoUploadedAt ≠ none ∧ r.dispatchedAt = none ∧ r.settledAt = none
  | .dispatched => r.videoUploadedAt ≠ none ∧ r.dispatchedAt ≠ none ∧ r.settledAt = none
  | .submitted | .failed | .outcomeUncertain =>
    r.videoUploadedAt ≠ none ∧ r.dispatchedAt ≠ none ∧ r.settledAt ≠ none

/-- `__post_init__`. -/
def Valid (r : BilibiliPublishAttemptRecord) : Prop :=
  (match r.uploadType with
    | .small => r.partSizeBytes = 0 ∧ r.partCount = 0
    | .chunked => 1 ≤ r.partSizeBytes ∧ 1 ≤ r.partCount) ∧
  (r.coverUrl ≠ none → r.hasCover = true) ∧ r.createdAt ≤ r.updatedAt ∧ r.momentsFit = true ∧
  (r.videoUploadedAt ≠ none → r.uploadToken ≠ none) ∧
  (r.resourceId ≠ none ↔ r.phase = .submitted) ∧ (r.failureCode ≠ none ↔ r.phase = .failed) ∧
  (r.platformErrorCode ≠ none ↔ r.phase = .failed) ∧ ∀ c ∈ r.platformErrorCode, 1 ≤ c

instance (r : BilibiliPublishAttemptRecord) : Decidable r.Valid := by
  unfold Valid
  cases r.uploadType <;> infer_instance

end BilibiliPublishAttemptRecord

instance : Row BilibiliPublishAttemptRecord where
  apart a b := a.publishJobId ≠ b.publishJobId
  symm h := h.symm
  irrefl _ h := h rfl
  dec _ _ := inferInstance

structure UploadPart where
  publishJobId : PublishJobId
  partNumber : Nat
  sizeBytes : Nat
  completedAt : Time
  deriving DecidableEq

instance : Row UploadPart where
  apart a b := ¬(a.publishJobId = b.publishJobId ∧ a.partNumber = b.partNumber)
  symm h e := h ⟨e.1.symm, e.2.symm⟩
  irrefl _ h := h ⟨rfl, rfl⟩
  dec _ _ := inferInstance

/-! ## Reconciliations -/

inductive BilibiliReconciliationOutcome where
  | pending | published | rejected | failed
  deriving DecidableEq, Repr

/-- mirrors bilibili_archive_reconciliation.py:173-218 -/
structure BilibiliReconciliationRecord where
  publishJobId : PublishJobId
  outcome : BilibiliReconciliationOutcome
  resourceId : Option ResourceId
  archiveState : Option Int
  failureCode : Option PublishFailureCode
  lastCheckedAt : Option Time
  settledAt : Option Time
  createdAt : Time
  updatedAt : Time
  deriving DecidableEq

/-- `__post_init__`. -/
def BilibiliReconciliationRecord.Valid (r : BilibiliReconciliationRecord) : Prop :=
  (r.settledAt ≠ none ↔ r.outcome ≠ .pending) ∧ (r.failureCode ≠ none ↔ r.outcome = .failed) ∧
  (r.outcome = .published ∨ r.outcome = .rejected → r.resourceId ≠ none ∧ r.archiveState ≠ none) ∧
  r.createdAt ≤ r.updatedAt

instance (r : BilibiliReconciliationRecord) : Decidable r.Valid := by
  unfold BilibiliReconciliationRecord.Valid; infer_instance

instance : Row BilibiliReconciliationRecord where
  apart a b := a.publishJobId ≠ b.publishJobId
  symm h := h.symm
  irrefl _ h := h rfl
  dec _ _ := inferInstance

structure PublishDb where
  attempts : Table BilibiliPublishAttemptRecord
  uploadParts : Table UploadPart
  reconciliations : Table BilibiliReconciliationRecord

namespace PublishDb

def empty : PublishDb := ⟨.empty, .empty, .empty⟩

def attempt? (db : PublishDb) (j : PublishJobId) : Option BilibiliPublishAttemptRecord :=
  db.attempts.find? fun r => r.publishJobId = j

def reconciliation? (db : PublishDb) (j : PublishJobId) : Option BilibiliReconciliationRecord :=
  db.reconciliations.find? fun r => r.publishJobId = j

variable {db : PublishDb} {j : PublishJobId}

theorem attempt?_job {r : BilibiliPublishAttemptRecord} (h : db.attempt? j = some r) :
    r.publishJobId = j := by simpa using (Table.mem_of_find? h).2

theorem reconciliation?_job {r : BilibiliReconciliationRecord}
    (h : db.reconciliation? j = some r) : r.publishJobId = j := by
  simpa using (Table.mem_of_find? h).2

/-! ## The attempt store -/

/-- `_record`: what the constructor refuses is not handed out. -/
def readAttempt (r : BilibiliPublishAttemptRecord) :
    Except BilibiliPublishError BilibiliPublishAttemptRecord :=
  if r.Valid then .ok r else .error .rejected

structure BilibiliPublishPreparation where
  record : BilibiliPublishAttemptRecord
  replayed : Bool

/-- mirrors bilibili_publish_repository.py:172-204 -/
def createPrepared (record : BilibiliPublishAttemptRecord) (db : PublishDb) :
    Except BilibiliPublishError BilibiliPublishPreparation × PublishDb :=
  if record.phase ≠ .prepared then (.error .rejected, db)
  else
    match db.attempt? record.publishJobId with
    | some existing =>
      match readAttempt existing with
      | .error e => (.error e, db)
      | .ok stored =>
        if stored.requestDigest ≠ record.requestDigest then (.error .rejected, db)
        else (.ok ⟨stored, true⟩, db)
    | none =>
      match db.attempts.insert? record with
      | none => (.error .rejected, db)
      | some attempts => (.ok ⟨record, false⟩, { db with attempts })

/-- mirrors bilibili_publish_repository.py:206-223 -/
def load (j : PublishJobId) (db : PublishDb) :
    Except BilibiliPublishError (Option BilibiliPublishAttemptRecord) :=
  match db.attempt? j with
  | none => .ok none
  | some r => (readAttempt r).map some

/-- An assignment that leaves the job alone. -/
def KeepsJob (f : BilibiliPublishAttemptRecord → BilibiliPublishAttemptRecord) : Prop :=
  ∀ r, (f r).publishJobId = r.publishJobId

theorem keepsKeys_attempts {values : BilibiliPublishAttemptRecord → BilibiliPublishAttemptRecord}
    (hv : KeepsJob values) : Table.KeepsKeys values := by
  intro a b
  show (values a).publishJobId ≠ _ ↔ _
  rw [hv a]
  exact Iff.rfl

/-- `_guarded_update`: whether a row of the job passed the guard.
mirrors bilibili_publish_repository.py:225-250 -/
def guardedUpdate (j : PublishJobId) (allowed : BilibiliPublishAttemptRecord → Bool)
    (values : BilibiliPublishAttemptRecord → BilibiliPublishAttemptRecord)
    (hv : KeepsJob values := by exact fun _ => rfl) (db : PublishDb) : Bool × PublishDb :=
  let attempts := db.attempts.updateWhere (fun r => r.publishJobId = j ∧ allowed r) values
    (keepsKeys_attempts hv)
  ((db.attempt? j).any allowed, { db with attempts })

/-- `if not updated: raise`. -/
def required (x : Bool × PublishDb) : Except BilibiliPublishError Unit × PublishDb :=
  (if x.1 then .ok () else .error .rejected, x.2)

/-- mirrors bilibili_publish_repository.py:252-265 -/
def recordUploadToken (j : PublishJobId) (uploadToken : UploadToken) (at' : Time)
    (db : PublishDb) : Except BilibiliPublishError Unit × PublishDb :=
  if uploadToken = [] ∨ 512 < uploadToken.length then (.error .rejected, db)
  else required (db.guardedUpdate j (fun r => r.phase = .prepared)
    fun r => { r with uploadToken := some uploadToken, updatedAt := at' })

/-- Whether the part was new.
mirrors bilibili_publish_repository.py:267-312 -/
def recordPartCompleted (j : PublishJobId) (partNumber sizeBytes : Nat) (at' : Time)
    (db : PublishDb) : Except BilibiliPublishError Bool × PublishDb :=
  match db.attempt? j with
  | none => (.error .rejected, db)
  | some attempt =>
    if sizeBytes < 1 ∨ attempt.phase ≠ .prepared ∨ attempt.uploadType ≠ .chunked ∨
        ¬(1 ≤ partNumber ∧ partNumber ≤ attempt.partCount) then (.error .rejected, db)
    else
      match db.uploadParts.insert? ⟨j, partNumber, sizeBytes, at'⟩ with
      | none => (.ok false, db)
      | some uploadParts => (.ok true, { db with uploadParts })

/-- The numbers of the parts recorded for the job. -/
def partNumbers (db : PublishDb) (j : PublishJobId) : List Nat :=
  (db.uploadParts.rows.filter fun p => p.publishJobId = j).map UploadPart.partNumber

/-- mirrors bilibili_publish_repository.py:314-333 -/
def completedPartNumbers (j : PublishJobId) (db : PublishDb) :
    Except BilibiliPublishError (List Nat) :=
  if (db.attempt? j).isNone then .error .rejected else .ok (db.partNumbers j)

/-- mirrors bilibili_publish_repository.py:335-348 -/
def recordVideoUploaded (j : PublishJobId) (at' : Time) (db : PublishDb) :
    Except BilibiliPublishError Unit × PublishDb :=
  required (db.guardedUpdate j (fun r => r.phase = .prepared ∧ r.uploadToken ≠ none)
    fun r => { r with phase := .videoUploaded, videoUploadedAt := some at', updatedAt := at' })

/-- mirrors bilibili_publish_repository.py:350-368 -/
def recordCoverUrl (j : PublishJobId) (coverUrl : CoverUrl) (at' : Time) (db : PublishDb) :
    Except BilibiliPublishError Unit × PublishDb :=
  if 1024 < coverUrl.length then (.error .rejected, db)
  else required (db.guardedUpdate j
    (fun r => (r.phase = .prepared ∨ r.phase = .videoUploaded) ∧ r.hasCover)
    fun r => { r with coverUrl := some coverUrl, updatedAt := at' })

/-- Whether this call won the admission.
mirrors bilibili_publish_repository.py:370-385 -/
def beginArchiveCreation (j : PublishJobId) (at' : Time) (db : PublishDb) :
    Except BilibiliPublishError Bool × PublishDb :=
  let x := db.guardedUpdate j (fun r => r.phase = .videoUploaded)
    fun r => { r with phase := .dispatched, dispatchedAt := some at', updatedAt := at' }
  if x.1 then (.ok true, x.2)
  else
    match x.2.load j with
    | .error e => (.error e, x.2)
    | .ok none => (.error .rejected, x.2)
    | .ok (some _) => (.ok false, x.2)

/-- mirrors bilibili_publish_repository.py:387-406 -/
def recordSubmitted (j : PublishJobId) (resourceId : ResourceId) (at' : Time) (db : PublishDb) :
    Except BilibiliPublishError Unit × PublishDb :=
  required (db.guardedUpdate j (fun r => r.phase = .dispatched)
    fun r => { r with
      phase := .submitted
      settledAt := some at'
      resourceId := some resourceId
      updatedAt := at' })

/-- mirrors bilibili_publish_repository.py:408-436 -/
def recordFailed (j : PublishJobId) (rejection : BilibiliPlatformRejection) (at' : Time)
    (db : PublishDb) : Except BilibiliPublishError Unit × PublishDb :=
  required (db.guardedUpdate j (fun r => r.phase = .dispatched)
    fun r => { r with
      phase := .failed
      settledAt := some at'
      failureCode := some rejection.failureCode
      platformErrorCode := some rejection.code
      updatedAt := at' })

/-- mirrors bilibili_publish_repository.py:438-450 -/
def recordOutcomeUncertain (j : PublishJobId) (at' : Time) (db : PublishDb) :
    Except BilibiliPublishError Unit × PublishDb :=
  required (db.guardedUpdate j (fun r => r.phase = .dispatched)
    fun r => { r with phase := .outcomeUncertain, settledAt := some at', updatedAt := at' })

/-- `_RECONCILABLE_PHASES`. -/
def isReconcilable : BilibiliPublishPhase → Bool
  | .dispatched | .submitted | .outcomeUncertain => true
  | _ => false

/-- Oldest first.
mirrors bilibili_publish_repository.py:452-466 -/
def listReconcilable (db : PublishDb) :
    Except BilibiliPublishError (List BilibiliPublishAttemptRecord) :=
  ((db.attempts.rows.filter fun r => isReconcilable r.phase).insertionSort fun a b =>
    a.createdAt < b.createdAt ∨ a.createdAt = b.createdAt ∧ a.publishJobId ≤ b.publishJobId).mapM
      readAttempt

/-! ## The reconciliation store -/

/-- `_reconciliation_record`. -/
def readReconciliation (r : BilibiliReconciliationRecord) :
    Except BilibiliPublishError BilibiliReconciliationRecord :=
  if r.Valid then .ok r else .error .rejected

def newReconciliation (j : PublishJobId) (resourceId : Option ResourceId) (at' : Time) :
    BilibiliReconciliationRecord where
  publishJobId := j
  outcome := .pending
  resourceId := resourceId
  archiveState := none
  failureCode := none
  lastCheckedAt := none
  settledAt := none
  createdAt := at'
  updatedAt := at'

/-- The row is only inserted where the job has none, and needs its attempt.
mirrors bilibili_publish_repository.py:504-549 -/
def ensurePending (j : PublishJobId) (resourceId : Option ResourceId) (at' : Time)
    (db : PublishDb) : Except BilibiliPublishError BilibiliReconciliationRecord × PublishDb :=
  match db.reconciliation? j with
  | some r => (readReconciliation r, db)
  | none =>
    if (db.attempt? j).isNone then (.error .rejected, db)
    else
      match db.reconciliations.insert? (newReconciliation j resourceId at') with
      | none => (.error .rejected, db)
      | some reconciliations =>
        (readReconciliation (newReconciliation j resourceId at'), { db with reconciliations })

/-- mirrors bilibili_publish_repository.py:551-569 -/
def loadReconciliation (j : PublishJobId) (db : PublishDb) :
    Except BilibiliPublishError (Option BilibiliReconciliationRecord) :=
  match db.reconciliation? j with
  | none => .ok none
  | some r => (readReconciliation r).map some

/-- `one_or_none` raises when two jobs carry the archive.
mirrors bilibili_publish_repository.py:571-591 -/
def findByResourceId (resourceId : ResourceId) (db : PublishDb) :
    Except BilibiliPublishError (Option BilibiliReconciliationRecord) :=
  match db.reconciliations.rows.filter fun r => r.resourceId = some resourceId with
  | [] => .ok none
  | [r] => (readReconciliation r).map some
  | _ => .error .unavailable

theorem keepsKeys_reconciliations
    {values : BilibiliReconciliationRecord → BilibiliReconciliationRecord}
    (hv : ∀ r, (values r).publishJobId = r.publishJobId) : Table.KeepsKeys values := by
  intro a b
  show (values a).publishJobId ≠ _ ↔ _
  rw [hv a]
  exact Iff.rfl

/-- `_pending_update`, of the rows that also pass the guard.
mirrors bilibili_publish_repository.py:612-632 -/
def pendingUpdate (j : PublishJobId) (allowed : BilibiliReconciliationRecord → Bool)
    (values : BilibiliReconciliationRecord → BilibiliReconciliationRecord)
    (hv : ∀ r, (values r).publishJobId = r.publishJobId := by exact fun _ => rfl)
    (db : PublishDb) : Bool × PublishDb :=
  let reconciliations := db.reconciliations.updateWhere
    (fun r => r.publishJobId = j ∧ r.outcome = .pending ∧ allowed r) values
    (keepsKeys_reconciliations hv)
  ((db.reconciliation? j).any fun r => r.outcome = .pending ∧ allowed r,
    { db with reconciliations })

/-- mirrors bilibili_publish_repository.py:634-648 -/
def recordChecked (j : PublishJobId) (archiveState : Option Int) (at' : Time) (db : PublishDb) :
    Except BilibiliPublishError Unit × PublishDb :=
  required (db.pendingUpdate j (fun _ => true)
    fun r => { r with archiveState := archiveState, lastCheckedAt := some at', updatedAt := at' })

/-- mirrors bilibili_publish_repository.py:650-676 -/
def adoptResourceId (j : PublishJobId) (resourceId : ResourceId) (at' : Time) (db : PublishDb) :
    Except BilibiliPublishError Unit × PublishDb :=
  required (db.pendingUpdate j (fun r => r.resourceId = none)
    fun r => { r with resourceId := some resourceId, updatedAt := at' })

/-- Whether this call settled the row.
mirrors bilibili_publish_repository.py:678-700 -/
def settle (j : PublishJobId) (outcome : BilibiliReconciliationOutcome)
    (archiveState : Option Int) (failureCode : Option PublishFailureCode) (at' : Time)
    (db : PublishDb) : Except BilibiliPublishError Bool × PublishDb :=
  if outcome = .pending ∨ ¬(failureCode ≠ none ↔ outcome = .failed) then (.error .rejected, db)
  else
    let x := db.pendingUpdate j (fun _ => true) fun r =>
      { r with
        outcome := outcome
        archiveState := archiveState
        failureCode := failureCode
        lastCheckedAt := some at'
        settledAt := some at'
        updatedAt := at' }
    if x.1 then (.ok true, x.2)
    else
      match x.2.loadReconciliation j with
      | .error e => (.error e, x.2)
      | .ok none => (.error .rejected, x.2)
      | .ok (some _) => (.ok false, x.2)

end PublishDb
end AutomationTool.Publishing
