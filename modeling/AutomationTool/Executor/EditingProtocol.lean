import AutomationTool.Editing.Timeline

/-!
# The worker's side of the editing line protocol

`LocalEditingWorkerProtocol` knows the one operation the worker is busy with. It accepts a
command or rejects it, and it turns what was done into lines. A function here yields `none`
where the code rejects; otherwise it yields the line and the operation that is left.

The signature of a line, its field set and its version are checked on both sides and are
the same for every line, so they are not here: a command is what an authenticated line
says, and `Command.other` is a line no parser takes.
-/
namespace AutomationTool.Executor.EditingWorker

open Editing (Uuid Uuid.version)

/-- An identifier that both sides parse: a version 4 UUID. -/
abbrev Uuid4 := {u : Uuid // Uuid.version u = some 4}

/-- A SHA-256 digest. -/
abbrev Digest := BitVec 256

/-! ## The vocabulary -/

inductive LocalEditingWorkerPhase where
  | preparing | rendering | publishing
  deriving DecidableEq

def LocalEditingWorkerPhase.order : LocalEditingWorkerPhase → Nat
  | .preparing => 0
  | .rendering => 1
  | .publishing => 2

inductive LocalEditingWorkerFailureCode where
  | invalidTimeline | materialUnavailable | materialUnsupported | fontUnavailable
  | renderFailed | resourceExhausted | permissionDenied | workspaceUnusable
  deriving DecidableEq

/-- mirrors smart_edit_generation.py:73-81 -/
inductive SmartEditGenerationStage where
  | preparing | analyzing | scripting | synthesizing | matching | selecting | publishing
  | completed
  deriving DecidableEq

def SmartEditGenerationStage.order : SmartEditGenerationStage → Nat
  | .preparing => 0
  | .analyzing => 1
  | .scripting => 2
  | .synthesizing => 3
  | .matching => 4
  | .selecting => 5
  | .publishing => 6
  | .completed => 7

inductive LocalSmartEditFailureCode where
  | insufficientMaterials | sourceTooShort | noRelevantMaterial | configurationMissing
  | upstreamRejected | materialUnavailable | localFailed | workspaceUnusable | commitFailed
  deriving DecidableEq

inductive LocalMaterialWorkerFailureCode where
  | unreadable | sourceNotAtRest | unsafePath | undecodable | noUsableStream
  | unusableDuration | tooLong | unusableFrameSize | frameTooLarge | fileTooLarge
  | silentAudio | probeCrashed | probeFailed | workspaceUnusable | unusableIdentifier
  | notRegistered | fileMissing | fileUnreadable | fileChanged | registryUnreadable
  | registryUnwritable | registryFull
  deriving DecidableEq

inductive LocalMaterialWorkerStatus where
  | available | unusableIdentifier | notRegistered | fileMissing | fileUnreadable
  | fileChanged | registryUnreadable | registryUnwritable | registryFull
  deriving DecidableEq

inductive MaterialCommand where
  | «import» | forget | status
  deriving DecidableEq

/-- What a material operation came to; the facts of an import as their canonical text. -/
inductive MaterialAnswer where
  | imported (facts : List Char)
  | importFailed (failureCode : LocalMaterialWorkerFailureCode)
  | forgotten
  | forgetFailed (failureCode : LocalMaterialWorkerFailureCode)
  | status (status : LocalMaterialWorkerStatus)
  deriving DecidableEq

/-- The operation an answer belongs to. -/
def MaterialAnswer.command : MaterialAnswer → MaterialCommand
  | .imported _ | .importFailed _ => .import
  | .forgotten | .forgetFailed _ => .forget
  | .status _ => .status

inductive Action where
  | commit | abort
  deriving DecidableEq

inductive Command where
  | editingStart (jobId projectId timelineId : Uuid4) (timelineRevision : Nat)
  | cancel (jobId : Uuid4)
  | material (command : MaterialCommand) (materialId : Uuid4)
  | smartEditStart (jobId : Uuid4)
  | smartEditFinalize (action : Action) (jobId : Uuid4)
  | other
  deriving DecidableEq

inductive Line where
  | progress (jobId : Uuid4) (phase : LocalEditingWorkerPhase) (progressPerMille : Nat)
  | succeeded (jobId outputArtifactId : Uuid4)
  | failed (jobId : Uuid4) (failureCode : LocalEditingWorkerFailureCode)
  | cancelled (jobId : Uuid4)
  | smartEditProgress (jobId : Uuid4) (stage : SmartEditGenerationStage) (progressPerMille : Nat)
  | smartEditPrepared (jobId : Uuid4) (resultDigest : Digest)
  | smartEditSucceeded (jobId : Uuid4) (resultDigest : Digest)
  | smartEditFailed (jobId : Uuid4) (failureCode : LocalSmartEditFailureCode)
  | smartEditCancelled (jobId : Uuid4)
  | smartEditAborted (jobId : Uuid4)
  | material (materialId : Uuid4) (answer : MaterialAnswer)
  /-- `worker.cancelled`, the answer of a session without an editing operation. -/
  | workerCancelled (jobId : Uuid4)
  deriving DecidableEq

/-! ## The active operation -/

inductive Operation where
  | editing | smartEdit
  deriving DecidableEq

/-- mirrors local_editing_worker.py:457-467 -/
structure ActiveJob where
  jobId : Uuid4
  operation : Operation := .editing
  phase : Option LocalEditingWorkerPhase := none
  progressPerMille : Int := -1
  cancelling : Bool := false
  smartStage : Option SmartEditGenerationStage := none
  resultDigest : Option Digest := none
  awaitingCommit : Bool := false
  finalizing : Option Action := none
  deriving DecidableEq

inductive Active where
  | job (job : ActiveJob)
  | material (materialId : Uuid4) (command : MaterialCommand)
  deriving DecidableEq

/-- mirrors local_editing_worker.py:1006-1016 -/
def requireActive (active : Option Active) (jobId : Uuid4) (operation : Operation) :
    Option ActiveJob :=
  match active with
  | some (.job a) => if a.jobId = jobId ∧ a.operation = operation then some a else none
  | _ => none

/-- mirrors local_editing_worker.py:1018-1029 -/
def requireMaterialActive (active : Option Active) (materialId : Uuid4)
    (command : MaterialCommand) : Bool :=
  active = some (.material materialId command)

theorem requireActive_eq_some {active : Option Active} {jobId : Uuid4} {operation : Operation}
    {a : ActiveJob} : requireActive active jobId operation = some a ↔
      active = some (.job a) ∧ a.jobId = jobId ∧ a.operation = operation := by
  unfold requireActive
  split
  · rename_i b
    by_cases h : b.jobId = jobId ∧ b.operation = operation
    · rw [if_pos h]
      constructor
      · intro e
        cases e
        exact ⟨rfl, h⟩
      · rintro ⟨e, -⟩
        cases e
        rfl
    · rw [if_neg h]
      constructor
      · intro e
        cases e
      · rintro ⟨e, h'⟩
        cases e
        exact absurd h' h
  · rename_i hne
    constructor
    · intro e
      cases e
    · rintro ⟨e, -⟩
      exact absurd e (hne a)

/-! ## Commands -/

/-- mirrors local_editing_worker.py:598-640 -/
def acceptStart (active : Option Active) (jobId projectId timelineId : Uuid4)
    (timelineRevision : Nat) : Option Active :=
  if active ≠ none ∨ projectId = timelineId ∨ ¬(1 ≤ timelineRevision ∧
      timelineRevision ≤ 2147483647) then none
  else some (.job { jobId := jobId })

/-- mirrors local_editing_worker.py:642-669 -/
def acceptCancel (active : Option Active) (jobId : Uuid4) : Option Active :=
  match active with
  | some (.job a) =>
    if a.jobId ≠ jobId ∨ a.cancelling ∨ a.awaitingCommit ∨ a.finalizing ≠ none then none
    else some (.job { a with cancelling := true })
  | _ => none

/-- mirrors local_editing_worker.py:671-749, the import,
the forgetting and the status of a material -/
def acceptMaterial (active : Option Active) (command : MaterialCommand) (materialId : Uuid4) :
    Option Active :=
  if active ≠ none then none else some (.material materialId command)

/-- mirrors local_editing_worker.py:538-552 -/
def acceptSmartEditStart (active : Option Active) (jobId : Uuid4) : Option Active :=
  if active ≠ none then none else some (.job { jobId := jobId, operation := .smartEdit })

/-- mirrors local_editing_worker.py:554-580 -/
def acceptSmartEditFinalize (active : Option Active) (action : Action) (jobId : Uuid4) :
    Option Active := do
  let a ← requireActive active jobId .smartEdit
  if ¬a.awaitingCommit ∨ a.resultDigest = none ∨ a.finalizing ≠ none ∨ a.cancelling then none
  else some (.job { a with finalizing := some action })

/-- The operation after an accepted command, `none` when it is rejected.

mirrors local_editing_worker.py:505-536 -/
def acceptCommand (active : Option Active) : Command → Option Active
  | .editingStart jobId projectId timelineId timelineRevision =>
    acceptStart active jobId projectId timelineId timelineRevision
  | .cancel jobId => acceptCancel active jobId
  | .material command materialId => acceptMaterial active command materialId
  | .smartEditStart jobId => acceptSmartEditStart active jobId
  | .smartEditFinalize action jobId => acceptSmartEditFinalize active action jobId
  | .other => none

/-! ## Lines -/

/-- A report and the operation that is left. -/
abbrev Report := Option (Line × Option Active)

/-- The check the two progress reports share, which the host makes again: the first report
is of the first phase at 0, none goes back. -/
def inOrder (last : Option Nat) (lastPerMille : Int) (order perMille : Nat) : Bool :=
  match last with
  | none => order = 0 ∧ perMille = 0
  | some previous => previous ≤ order ∧ lastPerMille ≤ perMille

/-- mirrors local_editing_worker.py:751-782 -/
def progress (active : Option Active) (jobId : Uuid4) (phase : LocalEditingWorkerPhase)
    (progressPerMille : Nat) : Report := do
  let a ← requireActive active jobId .editing
  if 1000 < progressPerMille ∨
      ¬inOrder (a.phase.map (·.order)) a.progressPerMille phase.order progressPerMille then none
  else some (.progress jobId phase progressPerMille,
    some (.job { a with phase := some phase, progressPerMille := progressPerMille }))

/-- mirrors local_editing_worker.py:784-799 -/
def succeed (active : Option Active) (jobId outputArtifactId : Uuid4) : Report := do
  let a ← requireActive active jobId .editing
  if a.phase ≠ some .publishing ∨ a.progressPerMille ≠ 1000 then none
  else some (.succeeded jobId outputArtifactId, none)

/-- mirrors local_editing_worker.py:801-812 -/
def fail (active : Option Active) (jobId : Uuid4) (failureCode : LocalEditingWorkerFailureCode) :
    Report := do
  let _ ← requireActive active jobId .editing
  some (.failed jobId failureCode, none)

/-- mirrors local_editing_worker.py:814-820 -/
def cancelled (active : Option Active) (jobId : Uuid4) : Report := do
  let a ← requireActive active jobId .editing
  if ¬a.cancelling then none else some (.cancelled jobId, none)

/-- mirrors local_editing_worker.py:822-854 -/
def smartEditProgress (active : Option Active) (jobId : Uuid4)
    (stage : SmartEditGenerationStage) (progressPerMille : Nat) : Report := do
  let a ← requireActive active jobId .smartEdit
  if 1000 < progressPerMille ∨ a.awaitingCommit ∨ a.finalizing ≠ none ∨
      ¬inOrder (a.smartStage.map (·.order)) a.progressPerMille stage.order progressPerMille then
    none
  else some (.smartEditProgress jobId stage progressPerMille,
    some (.job { a with smartStage := some stage, progressPerMille := progressPerMille }))

/-- mirrors local_editing_worker.py:856-874 -/
def smartEditPrepared (active : Option Active) (jobId : Uuid4) (resultDigest : Digest) :
    Report := do
  let a ← requireActive active jobId .smartEdit
  if a.smartStage ≠ some .completed ∨ a.progressPerMille ≠ 1000 ∨ a.cancelling ∨
      a.awaitingCommit then none
  else some (.smartEditPrepared jobId resultDigest,
    some (.job { a with resultDigest := some resultDigest, awaitingCommit := true }))

/-- mirrors local_editing_worker.py:876-892 -/
def smartEditSucceeded (active : Option Active) (jobId : Uuid4) (resultDigest : Digest) :
    Report := do
  let a ← requireActive active jobId .smartEdit
  if a.finalizing ≠ some .commit ∨ a.resultDigest ≠ some resultDigest then none
  else some (.smartEditSucceeded jobId resultDigest, none)

/-- mirrors local_editing_worker.py:894-909 -/
def smartEditFailed (active : Option Active) (jobId : Uuid4)
    (failureCode : LocalSmartEditFailureCode) : Report := do
  let _ ← requireActive active jobId .smartEdit
  some (.smartEditFailed jobId failureCode, none)

/-- mirrors local_editing_worker.py:911-917 -/
def smartEditCancelled (active : Option Active) (jobId : Uuid4) : Report := do
  let a ← requireActive active jobId .smartEdit
  if ¬a.cancelling ∨ a.awaitingCommit then none else some (.smartEditCancelled jobId, none)

/-- mirrors local_editing_worker.py:919-925 -/
def smartEditAborted (active : Option Active) (jobId : Uuid4) : Report := do
  let a ← requireActive active jobId .smartEdit
  if a.finalizing ≠ some .abort then none else some (.smartEditAborted jobId, none)

/-- mirrors local_editing_worker.py:927-1004, the five
answers to the three material commands -/
def materialAnswered (active : Option Active) (materialId : Uuid4) (answer : MaterialAnswer) :
    Report :=
  if requireMaterialActive active materialId answer.command then
    some (.material materialId answer, none)
  else none

/-! ## What is reported of the active job -/

variable {a : ActiveJob}

theorem requireActive_job (operation : Operation) (h : a.operation = operation) :
    requireActive (some (.job a)) a.jobId operation = some a := by
  simp [requireActive, h]

theorem progress_job {phase : LocalEditingWorkerPhase} {n : Nat} (h : a.operation = .editing)
    (hn : n ≤ 1000)
    (horder : inOrder (a.phase.map (·.order)) a.progressPerMille phase.order n = true) :
    progress (some (.job a)) a.jobId phase n = some (.progress a.jobId phase n,
      some (.job { a with phase := some phase, progressPerMille := n })) := by
  simp [progress, requireActive_job _ h, horder, Nat.not_lt.2 hn]

theorem succeed_job {outputArtifactId : Uuid4} (h : a.operation = .editing)
    (hphase : a.phase = some .publishing) (hper : a.progressPerMille = 1000) :
    succeed (some (.job a)) a.jobId outputArtifactId =
      some (.succeeded a.jobId outputArtifactId, none) := by
  simp [succeed, requireActive_job _ h, hphase, hper]

theorem fail_job {failureCode : LocalEditingWorkerFailureCode} (h : a.operation = .editing) :
    fail (some (.job a)) a.jobId failureCode = some (.failed a.jobId failureCode, none) := by
  simp [fail, requireActive_job _ h]

theorem cancelled_job (h : a.operation = .editing) (hcancelling : a.cancelling = true) :
    cancelled (some (.job a)) a.jobId = some (.cancelled a.jobId, none) := by
  simp [cancelled, requireActive_job _ h, hcancelling]

theorem smartEditProgress_job {stage : SmartEditGenerationStage} {n : Nat}
    (h : a.operation = .smartEdit) (hn : n ≤ 1000) (hawaiting : a.awaitingCommit = false)
    (hfinalizing : a.finalizing = none)
    (horder : inOrder (a.smartStage.map (·.order)) a.progressPerMille stage.order n = true) :
    smartEditProgress (some (.job a)) a.jobId stage n = some (.smartEditProgress a.jobId stage n,
      some (.job { a with smartStage := some stage, progressPerMille := n })) := by
  simp [smartEditProgress, requireActive_job _ h, horder, hawaiting, hfinalizing, Nat.not_lt.2 hn]

theorem smartEditPrepared_job {resultDigest : Digest} (h : a.operation = .smartEdit)
    (hstage : a.smartStage = some .completed) (hper : a.progressPerMille = 1000)
    (hawaiting : a.awaitingCommit = false) :
    smartEditPrepared (some (.job a)) a.jobId resultDigest =
      if a.cancelling then none else some (.smartEditPrepared a.jobId resultDigest,
        some (.job { a with resultDigest := some resultDigest, awaitingCommit := true })) := by
  simp [smartEditPrepared, requireActive_job _ h, hstage, hper, hawaiting]

theorem smartEditSucceeded_job {resultDigest : Digest} (h : a.operation = .smartEdit)
    (hfinalizing : a.finalizing = some .commit) (hdigest : a.resultDigest = some resultDigest) :
    smartEditSucceeded (some (.job a)) a.jobId resultDigest =
      some (.smartEditSucceeded a.jobId resultDigest, none) := by
  simp [smartEditSucceeded, requireActive_job _ h, hfinalizing, hdigest]

theorem smartEditFailed_job {failureCode : LocalSmartEditFailureCode}
    (h : a.operation = .smartEdit) : smartEditFailed (some (.job a)) a.jobId failureCode =
      some (.smartEditFailed a.jobId failureCode, none) := by
  simp [smartEditFailed, requireActive_job _ h]

theorem smartEditCancelled_job (h : a.operation = .smartEdit) (hcancelling : a.cancelling = true)
    (hawaiting : a.awaitingCommit = false) :
    smartEditCancelled (some (.job a)) a.jobId = some (.smartEditCancelled a.jobId, none) := by
  simp [smartEditCancelled, requireActive_job _ h, hcancelling, hawaiting]

theorem smartEditAborted_job (h : a.operation = .smartEdit)
    (hfinalizing : a.finalizing = some .abort) :
    smartEditAborted (some (.job a)) a.jobId = some (.smartEditAborted a.jobId, none) := by
  simp [smartEditAborted, requireActive_job _ h, hfinalizing]

theorem materialAnswered_material {materialId : Uuid4} {answer : MaterialAnswer} :
    materialAnswered (some (.material materialId answer.command)) materialId answer =
      some (.material materialId answer, none) := by
  simp [materialAnswered, requireMaterialActive]

/-! ## What is accepted -/

/-- Whether a command begins an operation. -/
def Command.begins : Command → Bool
  | .editingStart .. | .smartEditStart _ | .material .. => true
  | .cancel _ | .smartEditFinalize .. | .other => false

/-- The operation a command begins. -/
def Command.begun : Command → Option Active
  | .editingStart jobId _ _ _ => some (.job { jobId := jobId })
  | .smartEditStart jobId => some (.job { jobId := jobId, operation := .smartEdit })
  | .material command materialId => some (.material materialId command)
  | .cancel _ | .smartEditFinalize .. | .other => none

theorem accept_idle {command : Command} {active : Active}
    (h : acceptCommand none command = some active) :
    command.begins = true ∧ command.begun = some active := by
  cases command with
  | editingStart j p l r =>
    simp only [acceptCommand, acceptStart] at h
    split at h
    · cases h
    · exact ⟨rfl, h⟩
  | cancel j => cases h
  | material c m => exact ⟨rfl, h⟩
  | smartEditStart j => exact ⟨rfl, h⟩
  | smartEditFinalize action j => cases h
  | other => cases h

/-- While a job is active, only its own cancellation and its own commit or abort are
accepted. -/
theorem accept_job {command : Command} {active : Active}
    (h : acceptCommand (some (.job a)) command = some active) :
    command = .cancel a.jobId ∧ a.cancelling = false ∧ a.awaitingCommit = false ∧
        active = .job { a with cancelling := true } ∨
      ∃ action resultDigest, command = .smartEditFinalize action a.jobId ∧
        a.operation = .smartEdit ∧ a.awaitingCommit = true ∧
        a.resultDigest = some resultDigest ∧ a.cancelling = false ∧
        active = .job { a with finalizing := some action } := by
  cases command with
  | editingStart j p l r => simp [acceptCommand, acceptStart] at h
  | cancel j =>
    left
    simp only [acceptCommand, acceptCancel] at h
    split at h
    · cases h
    · rename_i hn
      simp only [not_or, Decidable.not_not, Bool.not_eq_true] at hn
      obtain ⟨rfl, hc, ha, -⟩ := hn
      cases h
      exact ⟨rfl, hc, ha, rfl⟩
  | material c m => simp [acceptCommand, acceptMaterial] at h
  | smartEditStart j => simp [acceptCommand, acceptSmartEditStart] at h
  | smartEditFinalize action j =>
    right
    simp only [acceptCommand, acceptSmartEditFinalize] at h
    obtain ⟨b, hb, hrest⟩ := Option.bind_eq_some_iff.1 h
    obtain ⟨hab, rfl, hop⟩ := requireActive_eq_some.1 hb
    cases hab
    split at hrest
    · cases hrest
    · rename_i hn
      simp only [not_or, Decidable.not_not, Bool.not_eq_true] at hn
      obtain ⟨hawaiting, hdigest, -, hcancelling⟩ := hn
      obtain ⟨d, hd⟩ := Option.ne_none_iff_exists'.1 hdigest
      cases hrest
      exact ⟨action, d, rfl, hop, by simpa using hawaiting, hd, hcancelling, rfl⟩
  | other => cases h

theorem accept_material {command : Command} {c : MaterialCommand} {m : Uuid4} :
    acceptCommand (some (.material m c)) command = none := by
  cases command <;>
    simp [acceptCommand, acceptStart, acceptCancel, acceptMaterial, acceptSmartEditStart,
      acceptSmartEditFinalize, requireActive]

end AutomationTool.Executor.EditingWorker
