import AutomationTool.Publishing.Service

/-!
# Uploading a video and creating its archive

The methods of the publishing service and the runtime's `submit`: prepare an intent once,
upload the material in one piece or part by part, resuming after the recorded parts, win the
one admission, and send the one request that creates the archive.
mirrors control_plane/application/bilibili_archive_publishing.py
and bilibili_publishing_runtime.py
-/
namespace AutomationTool.Publishing

open Protocol
open Editing (UnicodeData)

section

variable [UnicodeData]

/-- `_load`. -/
def loadAttempt (j : PublishJobId) : Service BilibiliPublishAttemptRecord := do
  match ← call (.load j) with
  | none => throw .rejected
  | some record => pure record

/-- `ALLOWED_VIDEO_EXTENSIONS`. -/
def allowedVideoExtensions : List (List Char) := [['m', 'p', '4'], ['f', 'l', 'v']]

/-- `_validate_material_bounds`. -/
def materialFits (contract : BilibiliOpenApiContract) (m : BilibiliPublishMaterial) : Bool :=
  allowedVideoExtensions.contains m.extension ∧ m.sizeBytes ≤ contract.videoMaxBytes ∧
    m.durationSeconds ≤ contract.videoMaxDurationSeconds

def preparedRecord (contract : BilibiliOpenApiContract) (j : PublishJobId)
    (material : BilibiliPublishMaterial) (fields : BilibiliArchiveFields) (withCover : Bool)
    (now : Time) : BilibiliPublishAttemptRecord where
  publishJobId := j
  phase := .prepared
  requestDigest := ⟨j, material, fields, withCover⟩
  material := material
  fields := fields
  uploadType := if material.sizeBytes ≤ contract.smallFileMaxBytes then .small else .chunked
  partSizeBytes :=
    if material.sizeBytes ≤ contract.smallFileMaxBytes then 0 else contract.partSizeBytes
  partCount :=
    if material.sizeBytes ≤ contract.smallFileMaxBytes then 0
    else (planUploadParts contract material.sizeBytes).length
  hasCover := withCover
  uploadToken := none
  coverUrl := none
  videoUploadedAt := none
  dispatchedAt := none
  settledAt := none
  resourceId := none
  failureCode := none
  platformErrorCode := none
  createdAt := now
  updatedAt := now

/-- mirrors bilibili_archive_publishing.py:607-661 -/
def prepare (contract : BilibiliOpenApiContract) (j : PublishJobId) (material : BilibiliPublishMaterial)
    (fields : BilibiliArchiveFields) (withCover : Bool) :
    Service PublishDb.BilibiliPublishPreparation :=
  if materialFits contract material = false ∨ validateArchiveSubmission contract fields = false then
    throw .rejected
  else do
    let now ← ask .now
    call (.createPrepared (preparedRecord contract j material fields withCover now))

/-- `_initialize_upload`. -/
def initializeUpload (contract : BilibiliOpenApiContract) (record : BilibiliPublishAttemptRecord) :
    Service UploadToken :=
  if validateUploadInitRequest record.material.fileName = false then throw .rejected
  else do
    let uploadToken ← authorizedCall contract
      (ask (.uploadInit record.material.fileName record.uploadType))
    let now ← ask .now
    call (.recordUploadToken record.publishJobId uploadToken now)
    pure uploadToken

/-- `_verify_reader_matches`. -/
def verifyReaderMatches (contract : BilibiliOpenApiContract)
    (record : BilibiliPublishAttemptRecord) : Service Unit := do
  match ← ask .validateMaterial with
  | none => throw .rejected
  | some material =>
    if materialFits contract material = false ∨ material ≠ record.material then throw .rejected
    else pure ()

/-- The parts already recorded, of the planned numbers. -/
def completedParts (record : BilibiliPublishAttemptRecord) : Service (List Nat) :=
  match record.uploadType with
  | .small => pure []
  | .chunked => do
    let completed ← call (.completedPartNumbers record.publishJobId)
    if completed.all fun n => 1 ≤ n ∧ n ≤ record.partCount then pure completed
    else throw .rejected

structure PlannedPart where
  partNumber : Nat
  offset : Nat
  size : Nat
  deriving DecidableEq

/-- The rounds of the upload loop from part `index + 1` on. -/
def partsFrom (record : BilibiliPublishAttemptRecord) : Nat → Nat → Nat → List PlannedPart
  | 0, _, _ => []
  | left + 1, index, offset =>
    let size := if index + 1 = record.partCount then record.material.sizeBytes - offset
      else record.partSizeBytes
    ⟨index + 1, offset, size⟩ :: partsFrom record left (index + 1) (offset + size)

def plannedParts (record : BilibiliPublishAttemptRecord) : List PlannedPart :=
  partsFrom record record.partCount 0 0

/-- One part, unless it is recorded. -/
def uploadPart (contract : BilibiliOpenApiContract) (j : PublishJobId) (completed : List Nat)
    (uploadToken : UploadToken) (p : PlannedPart) : Service Unit :=
  if p.partNumber ∈ completed then pure ()
  else do
    ask (.readRange p.offset p.size)
    let answer ← ask (.uploadPart uploadToken p.partNumber p.offset p.size)
    let result ← parsed contract answer
    stepResult result
    let now ← ask .now
    let _ ← call (.recordPartCompleted j p.partNumber p.size now)
    pure ()

def uploadParts (contract : BilibiliOpenApiContract) (j : PublishJobId) (completed : List Nat)
    (uploadToken : UploadToken) : List PlannedPart → Service Unit
  | [] => pure ()
  | p :: ps => do
    uploadPart contract j completed uploadToken p
    uploadParts contract j completed uploadToken ps

/-- The bytes of the material, as one file or part by part. -/
def transfer (contract : BilibiliOpenApiContract) (record : BilibiliPublishAttemptRecord)
    (completed : List Nat) (uploadToken : UploadToken) : Service Unit :=
  match record.uploadType with
  | .small => do
    ask (.readRange 0 record.material.sizeBytes)
    let answer ← ask (.uploadSmallFile uploadToken record.material.sizeBytes)
    let result ← parsed contract answer
    stepResult result
  | .chunked => do
    uploadParts contract record.publishJobId completed uploadToken (plannedParts record)
    let answer ← ask (.uploadComplete uploadToken)
    let result ← parsed contract answer
    stepResult result

/-- The stored token, or a new one. -/
def sessionToken (contract : BilibiliOpenApiContract) (record : BilibiliPublishAttemptRecord) :
    Service UploadToken :=
  match record.uploadToken with
  | some uploadToken => pure uploadToken
  | none => initializeUpload contract record

/-- mirrors bilibili_archive_publishing.py:729-784 -/
def uploadVideo (contract : BilibiliOpenApiContract) (j : PublishJobId) :
    Service BilibiliPublishAttemptRecord := do
  let record ← loadAttempt j
  if record.phase = .videoUploaded then pure record
  else if record.phase ≠ .prepared then throw .rejected
  else do
    verifyReaderMatches contract record
    let completed ← completedParts record
    let uploadToken ← sessionToken contract record
    transfer contract record completed uploadToken
    let now ← ask .now
    call (.recordVideoUploaded j now)
    loadAttempt j

/-- `ALLOWED_COVER_EXTENSIONS`. -/
def allowedCoverExtensions : List (List Char) :=
  [['j', 'p', 'e', 'g'], ['j', 'p', 'g'], ['p', 'n', 'g']]

def coverFits (contract : BilibiliOpenApiContract) (stat : BilibiliCoverStat) : Bool :=
  fileNamePattern stat.fileName ∧
    allowedCoverExtensions.contains ((fileExtension stat.fileName).map Char.toLower) ∧
    1 ≤ stat.sizeBytes ∧ stat.sizeBytes ≤ contract.coverMaxBytes

/-- mirrors bilibili_archive_publishing.py:802-858 -/
def uploadCover (contract : BilibiliOpenApiContract) (j : PublishJobId) : Service CoverUrl := do
  let record ← loadAttempt j
  if record.hasCover = false ∨ ¬(record.phase = .prepared ∨ record.phase = .videoUploaded) then
    throw .rejected
  else
    match record.coverUrl with
    | some coverUrl => pure coverUrl
    | none => do
      let stat ← ask .describeCover
      if coverFits contract stat = false then throw .rejected
      else do
        let length ← ask .readCover
        if length ≠ stat.sizeBytes then throw .unavailable
        else do
          let coverUrl ← authorizedCall contract (ask (.uploadCover stat.fileName))
          let now ← ask .now
          call (.recordCoverUrl j coverUrl now)
          pure coverUrl

structure BilibiliArchiveCreationReceipt where
  publishJobId : PublishJobId
  resourceId : ResourceId
  requestDigest : RequestContent
  replayed : Bool
  deriving DecidableEq

/-- The receipt of a submitted attempt. -/
def replayedReceipt (record : BilibiliPublishAttemptRecord) :
    Option BilibiliArchiveCreationReceipt :=
  if record.phase = .submitted then
    record.resourceId.map fun r => ⟨record.publishJobId, r, record.requestDigest, true⟩
  else none

/-- The outcome of the request is not known. -/
def outcomeLost (j : PublishJobId) : Service BilibiliArchiveCreationReceipt := do
  let now ← ask .now
  call (.recordOutcomeUncertain j now)
  throw .outcomeUncertain

/-- What becomes of the creation request. -/
def creationOutcome (contract : BilibiliOpenApiContract) (record : BilibiliPublishAttemptRecord) :
    Service BilibiliArchiveCreationReceipt := do
  match ← caught (ask (.archiveAddAnswer record.publishJobId)) with
  | .ok (.data resourceId) => do
    let now ← ask .now
    call (.recordSubmitted record.publishJobId resourceId now)
    pure ⟨record.publishJobId, resourceId, record.requestDigest, false⟩
  | .ok (.rejected code) =>
    match classifyErrorCode contract code with
    | none => outcomeLost record.publishJobId
    | some rejection => do
      let now ← ask .now
      call (.recordFailed record.publishJobId rejection now)
      throw (.stepFailed rejection)
  | _ => outcomeLost record.publishJobId

/-- The one creation request of an admitted attempt. -/
def dispatch (contract : BilibiliOpenApiContract) (record : BilibiliPublishAttemptRecord)
    (uploadToken : UploadToken) : Service BilibiliArchiveCreationReceipt := do
  call (.archiveAdd record.publishJobId uploadToken record.fields record.coverUrl)
  creationOutcome contract record

/-- Somebody else was admitted. -/
def refreshedReceipt (j : PublishJobId) : Service BilibiliArchiveCreationReceipt := do
  let refreshed ← loadAttempt j
  match replayedReceipt refreshed with
  | some receipt => pure receipt
  | none => throw .rejected

/-- An attempt whose video is uploaded asks for the admission. -/
def admitted (contract : BilibiliOpenApiContract) (record : BilibiliPublishAttemptRecord) :
    Service BilibiliArchiveCreationReceipt :=
  if record.hasCover = true ∧ record.coverUrl = none then throw .rejected
  else
    match record.uploadToken with
    | none => throw .rejected
    | some uploadToken =>
      if validateArchiveSubmission contract record.fields = false then throw .rejected
      else do
        ask .currentAccessToken
        let now ← ask .now
        let admitted ← call (.beginArchiveCreation record.publishJobId now)
        if admitted then dispatch contract record uploadToken
        else refreshedReceipt record.publishJobId

/-- mirrors bilibili_archive_publishing.py:886-971 -/
def createArchive (contract : BilibiliOpenApiContract) (j : PublishJobId) :
    Service BilibiliArchiveCreationReceipt := do
  let record ← loadAttempt j
  match record.phase with
  | .submitted =>
    match replayedReceipt record with
    | some receipt => pure receipt
    | none => throw .unavailable
  | .dispatched => throw .outcomeUncertain
  | .videoUploaded => admitted contract record
  | _ => throw .rejected

/-- The creation as `submit` runs it: a lost or rejected one is left to the reconciliation. -/
def creationReplayed (contract : BilibiliOpenApiContract) (j : PublishJobId) : Service Bool := do
  match ← caught (createArchive contract j) with
  | .ok receipt => pure receipt.replayed
  | .error .outcomeUncertain => pure false
  | .error (.stepFailed _) => pure false
  | .error e => throw e

/-- A reconcilable attempt gets its reconciliation row. -/
def openReconciliation (j : PublishJobId) : Service BilibiliPublishAttemptRecord := do
  match ← call (.load j) with
  | none => throw .unavailable
  | some record =>
    if PublishDb.isReconcilable record.phase then do
      let now ← ask .now
      let _ ← call (.ensurePending j record.resourceId now)
      pure record
    else pure record

/-- `BilibiliPublishingRuntime.submit`, behind its session.
mirrors bilibili_publishing_runtime.py:352-394 -/
def submit (contract : BilibiliOpenApiContract) (j : PublishJobId) :
    Service (BilibiliPublishAttemptRecord × Bool) := do
  let replayed ← creationReplayed contract j
  let record ← openReconciliation j
  pure (record, replayed)

end

end AutomationTool.Publishing
