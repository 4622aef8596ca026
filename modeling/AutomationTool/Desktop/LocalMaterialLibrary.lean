import AutomationTool.Desktop.SmartEditResult
import AutomationTool.Desktop.VideoOrchestrator
import AutomationTool.Executor.MaterialPathStore

/-!
# The local material library

An import binds a file to a fresh identifier in the worker's path registry and
registers it with the control plane; a file the control plane knows already is
bound to the known identifier instead. What cannot be completed is compensated
by forgetting. A deletion removes the material from the control plane first and
the mapping after it.

What each of the calls meets is an argument. A worker call that fails may have
changed its mapping before it failed, a control plane call that fails may have
taken effect, and `meanwhile` is what others register between two calls.
`digestOf` is the digest of the bytes a registered file stands for: the worker
takes a file for the one it has probed as long as its identity is unchanged.
-/
namespace AutomationTool.Desktop.MaterialLibrary

open Editing (Uuid sha256Pattern)
open Executor.EditingWorker (Uuid4)
open Executor.MaterialPaths (Published RegisteredFile Registration Op WriteOutcome usableIdentifier)

/-! ## Errors -/

inductive VideoWorkerLocalMaterialFailureCode where
  | unreadable | sourceNotAtRest | unsafePath | undecodable | noUsableStream | unusableDuration
  | tooLong | unusableFrameSize | frameTooLarge | fileTooLarge | silentAudio | probeCrashed
  | probeFailed | workspaceUnusable | unusableIdentifier | notRegistered | fileMissing
  | fileUnreadable | fileChanged | registryUnreadable | registryUnwritable | registryFull
  deriving DecidableEq

inductive VideoWorkerLocalMaterialStatus where
  | available | unusableIdentifier | notRegistered | fileMissing | fileUnreadable | fileChanged
  | registryUnreadable | registryUnwritable | registryFull
  deriving DecidableEq

inductive VideoWorkerLocalMaterialError where
  | lifecycle (code : VideoWorkerErrorCode)
  | rejected (code : VideoWorkerLocalMaterialFailureCode)
  deriving DecidableEq

inductive ControlPlaneErrorCode where
  | transportUnavailable | protocolInvalid | requestRejected | installationAccessDenied
  | installationBusy | installationConflict | credentialMissing | identityUnavailable
  | storageUnavailable | outcomeUncertain | authenticationInvalid | recoveryInvalid
  | accountSessionInvalid | resourceNotFound
  deriving DecidableEq

structure ControlPlaneFailure where
  code : ControlPlaneErrorCode
  retryable : Bool
  deriving DecidableEq

inductive LocalMaterialLibraryErrorCode where
  | configurationInvalid | sourceChanged
  | workerLifecycle (code : VideoWorkerErrorCode)
  | workerRejected (code : VideoWorkerLocalMaterialFailureCode)
  | controlPlane (code : ControlPlaneErrorCode)
  | compensationFailed | remapUncertain
  deriving DecidableEq

structure LocalMaterialLibraryError where
  code : LocalMaterialLibraryErrorCode
  retryable : Bool
  deriving DecidableEq

def compensationFailed : LocalMaterialLibraryError := ⟨.compensationFailed, true⟩

def configurationInvalid : LocalMaterialLibraryError := ⟨.configurationInvalid, false⟩

/-- mirrors local_material_library.rs:457-480 -/
def workerError : VideoWorkerLocalMaterialError → LocalMaterialLibraryError
  | .lifecycle code =>
    ⟨.workerLifecycle code, code = .notRunning ∨ code = .processUnavailable ∨ code = .timedOut⟩
  | .rejected code =>
    ⟨.workerRejected code,
      code = .sourceNotAtRest ∨ code = .fileMissing ∨ code = .fileUnreadable ∨
        code = .fileChanged ∨ code = .registryUnreadable ∨ code = .registryUnwritable⟩

/-! ## What the worker finds and what the control plane keeps -/

inductive VideoWorkerLocalMaterialKind where | video | image | audio
  deriving DecidableEq

inductive EditingMaterialKind where | video | image | audio
  deriving DecidableEq

/-- mirrors local_video_orchestrator.rs:793-803 -/
structure VideoWorkerLocalMaterialFacts where
  audioLoudnessLufs : Option ℚ
  contentDigest : List Char
  durationMs : Option Nat
  hasAudio : Bool
  height : Option Nat
  kind : VideoWorkerLocalMaterialKind
  width : Option Nat

/-- `(-70.0..=0.0).contains(&value)`. -/
def audible (value : ℚ) : Bool := -70 ≤ value ∧ value ≤ 0

/-- A width and a height between 1 and 8192. -/
def framed : Option Nat → Option Nat → Bool
  | some width, some height => (1 ≤ width ∧ width ≤ 8192) ∧ 1 ≤ height ∧ height ≤ 8192
  | _, _ => false

/-- mirrors local_video_orchestrator.rs:834-864 -/
def VideoWorkerLocalMaterialFacts.isValid (f : VideoWorkerLocalMaterialFacts) : Bool :=
  (match f.kind with
    | .image => f.durationMs.isNone
    | .video | .audio => f.durationMs.any fun d => 1 ≤ d ∧ d ≤ 4 * 60 * 60 * 1000) &&
  (match f.kind with
    | .audio => f.width.isNone && f.height.isNone && f.hasAudio
    | .video | .image => framed f.width f.height) &&
  f.audioLoudnessLufs.all (fun l => f.hasAudio && audible l) &&
  !(f.kind = .image && f.hasAudio) && sha256Pattern f.contentDigest

/-- The fields whose values are always empty in a registration are left out.
mirrors control_plane.rs:735-752 -/
structure EditingMaterialRegistrationRequest where
  materialId : List Char
  kind : EditingMaterialKind
  durationMs : Option Nat
  width : Option Nat
  height : Option Nat
  contentDigest : List Char
  hasAudio : Bool
  audioLoudnessLufs : Option ℚ
  deriving DecidableEq

/-- mirrors control_plane.rs:5166-5209 -/
def EditingMaterialRegistrationRequest.validate (r : EditingMaterialRegistrationRequest) : Bool :=
  canonicalUuidV4 r.materialId && sha256Pattern r.contentDigest &&
  (match r.kind with
    | .image => r.durationMs.isNone
    | .video | .audio => r.durationMs.any fun d => 1 ≤ d ∧ d ≤ maxEditingMaterialDurationMs) &&
  (match r.kind with
    | .audio => r.width.isNone && r.height.isNone && r.hasAudio
    | .image | .video => framed r.width r.height) &&
  r.audioLoudnessLufs.all (fun l => r.hasAudio && audible l) &&
  !(r.kind = .image && r.hasAudio)

/-- A material as the client hands it on, which is with a canonical identifier; what speech and
vision analysis add to it is left out.
mirrors control_plane.rs:643-667 -/
structure EditingMaterialSnapshot where
  materialId : List Char
  kind : EditingMaterialKind
  durationMs : Option Nat
  width : Option Nat
  height : Option Nat
  contentDigest : List Char
  hasAudio : Bool
  audioLoudnessLufs : Option ℚ
  canonical : canonicalUuidV4 materialId = true
  deriving DecidableEq

/-- The answer of a registration: the client refuses one that differs from its request. -/
def EditingMaterialRegistrationRequest.snapshot (r : EditingMaterialRegistrationRequest)
    (h : r.validate = true) : EditingMaterialSnapshot where
  materialId := r.materialId
  kind := r.kind
  durationMs := r.durationMs
  width := r.width
  height := r.height
  contentDigest := r.contentDigest
  hasAudio := r.hasAudio
  audioLoudnessLufs := r.audioLoudnessLufs
  canonical := by
    simp only [validate, Bool.and_eq_true] at h
    exact h.1.1.1.1.1

/-- The two stores: which file the worker has for a material, and the materials that the control
plane knows. -/
structure Stores where
  mapping : Published
  materials : List EditingMaterialSnapshot

def Stores.bind (s : Stores) (id : Uuid4) (file : Option RegisteredFile) : Stores :=
  { s with mapping := Function.update s.mapping id file }

theorem usableIdentifier_self (id : Uuid4) : usableIdentifier id = some id := by
  simp [usableIdentifier, id.2]

/-! ## The calls -/

variable (digestOf : RegisteredFile → List Char)

/-- A file that was probed, with what was found. -/
structure Probed where
  file : RegisteredFile
  facts : VideoWorkerLocalMaterialFacts
  valid : facts.isValid = true
  digest : facts.contentDigest = digestOf file

/-- What an import that failed has done to the mapping of its identifier. -/
inductive Left where
  | kept
  | bound (file : RegisteredFile)
  | forgotten

def Left.apply (s : Stores) (id : Uuid4) : Left → Stores
  | .kept => s
  | .bound file => s.bind id (some file)
  | .forgotten => s.bind id none

inductive ImportAnswer where
  | imported (probed : Probed digestOf)
  | failed (error : VideoWorkerLocalMaterialError) (left : Left)

/-- `took`: the call took effect although it failed. -/
inductive ForgetAnswer where
  | forgot
  | failed (error : VideoWorkerLocalMaterialError) (took : Bool)

inductive FindAnswer where
  | answered (meanwhile : List EditingMaterialSnapshot)
  | failed (failure : ControlPlaneFailure)

inductive RegisterAnswer where
  | registered
  | failed (failure : ControlPlaneFailure) (took : Bool)

inductive DeleteAnswer where
  | answered
  | failed (failure : ControlPlaneFailure) (took : Bool)

namespace Stores

variable {digestOf}

/-- `worker.import(id, source_path)`. -/
def importFile (s : Stores) (id : Uuid4) : ImportAnswer digestOf →
    Except VideoWorkerLocalMaterialError VideoWorkerLocalMaterialFacts × Stores
  | .imported probed => (.ok probed.facts, s.bind id (some probed.file))
  | .failed error left => (.error error, left.apply s id)

def forget (s : Stores) (id : Uuid4) :
    ForgetAnswer → Except VideoWorkerLocalMaterialError Unit × Stores
  | .forgot => (.ok (), s.bind id none)
  | .failed error took => (.error error, if took then s.bind id none else s)

/-- mirrors control_plane.rs:1521-1557 -/
def findByDigest (s : Stores) (digest : List Char) :
    FindAnswer → Except ControlPlaneFailure (Option EditingMaterialSnapshot) × Stores
  | .answered meanwhile =>
    let materials := meanwhile ++ s.materials
    (.ok (materials.find? (·.contentDigest = digest)), { s with materials := materials })
  | .failed failure => (.error failure, s)

/-- mirrors control_plane.rs:1587-1631 -/
def register (s : Stores) (request : EditingMaterialRegistrationRequest)
    (h : request.validate = true) :
    RegisterAnswer → Except ControlPlaneFailure EditingMaterialSnapshot × Stores
  | .registered =>
    (.ok (request.snapshot h), { s with materials := s.materials.insert (request.snapshot h) })
  | .failed failure took =>
    (.error failure,
      if took then { s with materials := s.materials.insert (request.snapshot h) } else s)

def isRegistered (s : Stores) (materialId : List Char) : Bool :=
  s.materials.any (·.materialId = materialId)

def remove (s : Stores) (materialId : List Char) : Stores :=
  { s with materials := s.materials.filter (·.materialId ≠ materialId) }

/-- mirrors control_plane.rs:1633-1655 -/
def delete (s : Stores) (materialId : List Char) :
    DeleteAnswer → Except ControlPlaneFailure Unit × Stores
  | .answered =>
    if s.isRegistered materialId then (.ok (), s.remove materialId)
    else (.error ⟨.resourceNotFound, false⟩, s)
  | .failed failure took => (.error failure, if took then s.remove materialId else s)

end Stores

/-! ## The library -/

structure LocalMaterialImportOutcome where
  material : EditingMaterialSnapshot
  deduplicated : Bool
  deriving DecidableEq

abbrev Imported := Except LocalMaterialLibraryError LocalMaterialImportOutcome × Stores

/-- What the calls of an import meet, in the order in which they may be made. -/
structure ImportAnswers where
  first : ImportAnswer digestOf
  find : FindAnswer
  register : RegisterAnswer
  findAgain : FindAnswer
  /-- The forgetting of the temporary identifier. -/
  forget : ForgetAnswer
  second : ImportAnswer digestOf
  /-- The forgetting of the duplicate's identifier. -/
  forgetSecond : ForgetAnswer

/-- mirrors local_material_library.rs:402-421 -/
def registrationRequest (materialId : Uuid) (facts : VideoWorkerLocalMaterialFacts) :
    Except LocalMaterialLibraryError {r : EditingMaterialRegistrationRequest // r.validate = true} :=
  let u16 (value : Nat) : Option Nat := if value < 65536 then some value else none
  let request : EditingMaterialRegistrationRequest :=
    { materialId := Hex.hyphenated materialId
      kind :=
        match facts.kind with
        | .video => .video
        | .image => .image
        | .audio => .audio
      durationMs := facts.durationMs
      width := facts.width.bind u16
      height := facts.height.bind u16
      contentDigest := facts.contentDigest
      hasAudio := facts.hasAudio
      audioLoudnessLufs := facts.audioLoudnessLufs }
  if h : request.validate = true then .ok ⟨request, h⟩ else .error configurationInvalid

theorem version_of_canonical {value : List Char} {parsed : Uuid}
    (h : Uuid.version parsed = some 4 ∧ Hex.hyphenated parsed = value) :
    Uuid.version parsed = some 4 := h.1

/-- mirrors local_material_library.rs:423-431 -/
def parseUuidV4 (value : List Char) : Except LocalMaterialLibraryError Uuid4 :=
  match Hex.ofHyphenated value with
  | none => .error configurationInvalid
  | some parsed =>
    if h : Uuid.version parsed = some 4 ∧ Hex.hyphenated parsed = value then .ok ⟨parsed, version_of_canonical h⟩
    else .error configurationInvalid

section

variable {digestOf} (o : ImportAnswers digestOf) (temporaryId : Uuid4)

/-- mirrors local_material_library.rs:328-358 -/
def remapDuplicate (existing : EditingMaterialSnapshot) (s : Stores) : Imported :=
  match parseUuidV4 existing.materialId with
  | .error error => (.error error, s)
  | .ok existingId =>
    match s.forget temporaryId o.forget with
    | (.error _, s) => (.error compensationFailed, s)
    | (.ok (), s) =>
      match s.importFile existingId o.second with
      | (.error error, s) => (.error ⟨.remapUncertain, (workerError error).retryable⟩, s)
      | (.ok remapped, s) =>
        if remapped.contentDigest ≠ existing.contentDigest then
          match s.forget existingId o.forgetSecond with
          | (.error _, s) => (.error compensationFailed, s)
          | (.ok (), s) => (.error ⟨.sourceChanged, true⟩, s)
        else (.ok ⟨existing, true⟩, s)

/-- mirrors local_material_library.rs:360-373 -/
def compensate (failure : ControlPlaneFailure) (s : Stores) : Imported :=
  match s.forget temporaryId o.forget with
  | (.error _, s) => (.error compensationFailed, s)
  | (.ok (), s) => (.error ⟨.controlPlane failure.code, failure.retryable⟩, s)

/-- The import once the worker has answered with `facts`.
mirrors local_material_library.rs:301-326 -/
def registerImported (facts : VideoWorkerLocalMaterialFacts) (s : Stores) : Imported :=
  match registrationRequest temporaryId facts with
  | .error error => (.error error, s)
  | .ok ⟨registration, h⟩ =>
    match s.findByDigest facts.contentDigest o.find with
    | (.ok (some existing), s) => remapDuplicate o temporaryId existing s
    | (.ok none, s) =>
      match s.register registration h o.register with
      | (.ok material, s) => (.ok ⟨material, false⟩, s)
      | (.error failure, s) =>
        match s.findByDigest facts.contentDigest o.findAgain with
        | (.ok (some existing), s) =>
          if existing.materialId = Hex.hyphenated temporaryId then (.ok ⟨existing, false⟩, s)
          else remapDuplicate o temporaryId existing s
        | (.ok none, s) | (.error _, s) => compensate o temporaryId failure s
    | (.error failure, s) => compensate o temporaryId failure s

/-- mirrors local_material_library.rs:281-326 -/
def importMaterialWith (temporaryId : Uuid) (s : Stores) : Imported :=
  match usableIdentifier temporaryId with
  | none => (.error configurationInvalid, s)
  | some temporaryId =>
    match s.importFile temporaryId o.first with
    | (.error error, s) => (.error (workerError error), s)
    | (.ok facts, s) => registerImported o temporaryId facts s

end

/-- What the calls of a deletion meet. -/
structure DeleteAnswers where
  status : Except VideoWorkerLocalMaterialError VideoWorkerLocalMaterialStatus
  delete : DeleteAnswer
  forget : ForgetAnswer

/-- The last call of a deletion.
mirrors local_material_library.rs:397-399 -/
def forgetDeleted (o : DeleteAnswers) (materialId : Uuid4) (s : Stores) :
    Except LocalMaterialLibraryError Unit × Stores :=
  match s.forget materialId o.forget with
  | (.error _, s) => (.error compensationFailed, s)
  | (.ok (), s) => (.ok (), s)

/-- mirrors local_material_library.rs:375-400 -/
def deleteMaterialWith (o : DeleteAnswers) (materialId : Uuid) (s : Stores) :
    Except LocalMaterialLibraryError Unit × Stores :=
  match usableIdentifier materialId with
  | none => (.error configurationInvalid, s)
  | some materialId =>
    match o.status with
    | .error error => (.error (workerError error), s)
    | .ok _ =>
      match s.delete (Hex.hyphenated materialId) o.delete with
      | (.ok (), s) => forgetDeleted o materialId s
      | (.error failure, s) =>
        if failure.code = .resourceNotFound then forgetDeleted o materialId s
        else (.error ⟨.controlPlane failure.code, failure.retryable⟩, s)

end AutomationTool.Desktop.MaterialLibrary
