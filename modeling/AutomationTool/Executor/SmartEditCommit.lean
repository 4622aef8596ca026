import AutomationTool.Executor.MaterialPathStore
import AutomationTool.Executor.SmartEditGeneration

/-!
# The commit of a staged smart edit

`commit_smart_edit_job` moves the workspace with the narration files to a
durable directory of the job, registers every narration in one batch and then
throws the job's directory away; what fails after the move is compensated by
moving back, or by removing the durable directory.

What each step meets is a field of `Outcomes`. A directory is moved as a whole;
`rmtree` may stop anywhere, so what it leaves is an outcome as well. The files
of a workspace beside the narrations are left out.
-/
namespace AutomationTool.Executor.MaterialPaths

open Editing (Uuid)
open EditingWorker (Uuid4 LocalSmartEditFailureCode)
open SmartEdit (SmartEditNarrationRegistration)

/-- A file: the digest of its bytes, and what `stat` says of it. -/
structure StoredFile where
  digest : List Char
  stat : FileStat

/-- The files below a directory by their relative paths. -/
abbrev Tree := List Char → Option StoredFile

/-- The directory of a job, with the workspace in it. -/
structure JobDirectory where
  workspace : Option Tree

/-- The three stores a commit changes: the job's directory, its durable directory, and the
document of the path registry. -/
structure Disk where
  job : Option JobDirectory
  durable : Option Tree
  document : Option Payload

/-- mirrors smart_edit_worker_process.py:361-369 -/
structure LocalSmartEditStagedJob where
  jobId : Uuid4
  narrationRegistrations : List SmartEditNarrationRegistration
  finalized : Bool := false

/-- What a commit may raise: its own rejection, the rejection of a source, an `OSError`. -/
inductive Raised
  | rejected (code : LocalSmartEditFailureCode)
  | probe (rejection : MaterialProbeRejection)
  | os
deriving DecidableEq

/-- What the steps of a commit and of an abort meet. -/
structure Outcomes where
  /-- The job's directory is a private one. -/
  jobRootPrivate : Bool := true
  /-- The result document is there and has its digest. -/
  resultVerifies : Bool := true
  /-- A narration file of the workspace can be read. -/
  narrationReads : SmartEditNarrationRegistration → Bool := fun _ => true
  /-- How the parent of the durable directory fails, if it does. -/
  generatedParent : Option Raised := none
  /-- `durable.exists()` gives an answer. -/
  durableAnswers : Bool := true
  moves : Bool := true
  /-- The state directory is there or can be made. -/
  stateDirectory : Bool := true
  documentReads : Bool := true
  /-- The state directory is private when the batch is registered. -/
  home : Bool := true
  /-- How `stat` of a narration file that has been moved fails, if it does. -/
  sources : SmartEditNarrationRegistration → Option StatError := fun _ => none
  writes : Bool := true
  movesBack : Bool := true
  /-- What `rmtree` leaves of the durable directory. -/
  durableLeft : Option Tree := none
  /-- What `rmtree` leaves of the job's directory. -/
  jobLeft : Option JobDirectory := none
  /-- `lstat` of the job's directory gives an answer. -/
  jobSeen : Bool := true

/-- `local-executor/generated-materials/<job id>`. -/
def durablePath (root : PosixPath) (jobId : Uuid4) : PosixPath :=
  (root.joinParts "local-executor/generated-materials".toList).joinParts (Hex.hyphenated jobId)

/-- `_cleanup_job`.
mirrors smart_edit_worker_process.py:379-388 -/
def cleanupJob (o : Outcomes) (disk : Disk) : Bool × Disk :=
  (o.jobLeft.isNone && o.jobSeen, { disk with job := o.jobLeft })

/-- What a commit or an abort leaves. -/
structure Committed where
  result : Except Raised Unit
  staged : LocalSmartEditStagedJob
  disk : Disk

/-- mirrors smart_edit_worker_process.py:702-707 -/
def abortSmartEditJob (o : Outcomes) (staged : LocalSmartEditStagedJob) (disk : Disk) : Committed :=
  if staged.finalized then ⟨.error (.rejected .localFailed), staged, disk⟩
  else
    let (cleaned, disk) := cleanupJob o disk
    if cleaned then ⟨.ok (), { staged with finalized := true }, disk⟩
    else ⟨.error (.rejected .workspaceUnusable), staged, disk⟩

section

variable (nt : Bool) (root : PosixPath) (o : Outcomes) (staged : LocalSmartEditStagedJob)

/-- mirrors smart_edit_worker_process.py:599-619 -/
def verifyStagedNarration (tree : Tree) : Bool :=
  staged.narrationRegistrations.all fun registration =>
    o.narrationReads registration &&
      (tree registration.relativePath).any fun file =>
        file.stat.regular && file.stat.sizeBytes = (registration.bytesWritten : Int) &&
          file.digest = registration.contentDigest

/-- The checks before anything is changed, and the workspace they have verified.
mirrors smart_edit_worker_process.py:647-655 -/
def verifyStaged (disk : Disk) : Option Tree :=
  if staged.finalized || !o.jobRootPrivate || !o.resultVerifies then none
  else
    disk.job.bind fun job =>
      let tree := job.workspace.getD fun _ => none
      if verifyStagedNarration o staged tree then some tree else none

/-- The mappings of the batch, each with what `stat` says of its file. -/
def mappings (tree : Tree) : List Registration :=
  staged.narrationRegistrations.map fun registration =>
    { materialId := registration.materialId
      source := (durablePath root staged.jobId).joinParts registration.relativePath
      answer :=
        match o.sources registration, tree registration.relativePath with
        | some e, _ => .error e
        | none, none => .error .missing
        | none, some file => .ok file.stat }

/-- How `_state_registry(bootstrap).register_many(mappings)` ends. -/
inductive Attempt
  | registered (document : Option Payload)
  | refused
  | probeRefused (rejection : MaterialProbeRejection)

def registerNarrations (tree : Tree) (document : Option Payload) : Attempt :=
  if !o.stateDirectory || !o.documentReads then .refused
  else
    match load nt document with
    | .error _ => .refused
    | .ok entries =>
      let w := if o.writes then WriteOutcome.done else .failed
      match Registry.call nt ⟨document, entries⟩
          (.registerMany o.home (mappings root o staged tree) w) with
      | (.returned _, r) => .registered r.document
      | (.raised (.probe rejection), _) => .probeRefused rejection
      | _ => .refused

/-- The durable directory takes the place of the workspace. -/
def moved (tree : Tree) (disk : Disk) : Disk :=
  { disk with job := some ⟨none⟩, durable := some tree }

/-- The compensation of a batch that was not registered, and the rejection.
mirrors smart_edit_worker_process.py:686-697 -/
def rollBack (tree : Tree) (disk : Disk) : Committed :=
  let disk :=
    if o.movesBack then { disk with job := some ⟨some tree⟩, durable := none }
    else { disk with durable := o.durableLeft }
  ⟨.error (.rejected .commitFailed), staged, disk⟩

/-- The workspace can be moved: nothing stands in its way.
mirrors smart_edit_worker_process.py:666-669 -/
def movable (disk : Disk) : Bool := o.durableAnswers && disk.durable.isNone && o.moves

/-- mirrors smart_edit_worker_process.py:643-699; a rejection
of a source is none of the exceptions that are compensated -/
def commitSmartEditJob (disk : Disk) : Committed :=
  match verifyStaged o staged disk with
  | none => ⟨.error (.rejected .commitFailed), staged, disk⟩
  | some tree =>
    if staged.narrationRegistrations = [] then
      let (cleaned, disk) := cleanupJob o disk
      if cleaned then ⟨.ok (), { staged with finalized := true }, disk⟩
      else ⟨.error (.rejected .commitFailed), staged, disk⟩
    else
      match o.generatedParent with
      | some e => ⟨.error e, staged, disk⟩
      | none =>
        if !movable o disk then ⟨.error (.rejected .commitFailed), staged, disk⟩
        else
          let disk := moved tree disk
          match registerNarrations nt root o staged tree disk.document with
          | .registered document =>
            ⟨.ok (), { staged with finalized := true },
              (cleanupJob o { disk with document }).2⟩
          | .refused => rollBack o staged tree disk
          | .probeRefused rejection => ⟨.error (.probe rejection), staged, disk⟩

end

end AutomationTool.Executor.MaterialPaths
