import AutomationTool.Executor.EditingWorker

/-!
# The desktop host's side of the editing worker

`LocalVideoOrchestrator` keeps one job of the running Python worker in memory: it writes
commands, reads at most one line a call, and parses it against the state of the job. All its
operations hold one lock; those of a smart edit's transaction and of a material wait for the
answer while they hold it, so they are two definitions here: what is written, and what is
made of the line that is read.

The host and the worker use the same names for phases, stages and codes, in the same order,
so the worker's types serve both. What the operating system answers is an operation's
`Calls`. `number` and `readings` are not in the code: the place of a job's start command in
the stream of commands, and what was read for what.
-/
namespace AutomationTool.Desktop

open Executor.EditingWorker

inductive VideoWorkerErrorCode where
  | authenticationRejected | configurationInvalid | notRunning | processUnavailable
  | renderRejected | timedOut
  deriving DecidableEq

/-- mirrors local_video_orchestrator.rs:253-284 -/
structure VideoWorkerLocalEditingJobRequest where
  projectId : Uuid4
  timelineId : Uuid4
  timelineRevision : Nat
  distinct : projectId ≠ timelineId
  positive : 1 ≤ timelineRevision
  bounded : timelineRevision ≤ 2147483647

/-- mirrors local_video_orchestrator.rs:2698-2704 -/
structure RunningLocalEditingJob where
  jobId : Uuid4
  number : Nat
  phase : Option LocalEditingWorkerPhase := none
  progressPerMille : Nat := 0
  cancelling : Bool := false
  terminal : Bool := false
  deriving DecidableEq

/-- mirrors local_video_orchestrator.rs:2706-2714 -/
structure RunningSmartEditJob where
  jobId : Uuid4
  number : Nat
  stage : Option SmartEditGenerationStage := none
  progressPerMille : Nat := 0
  cancelling : Bool := false
  preparedDigest : Option Digest := none
  terminal : Bool := false
  deriving DecidableEq

/-- A line that was read: the command it was read for, the command it belongs to, and
whether it was taken for an answer or an event. -/
structure Reading where
  wanted : Nat
  number : Nat
  line : Line
  accepted : Bool
  deriving DecidableEq

/-- `exited` is the exit status of the child; `mediaTools` and `scriptModel` tell whether the
launch has them.

mirrors local_video_orchestrator.rs:2682-2696 -/
structure RunningVideoWorker where
  child : Worker := {}
  exited : Option Bool := none
  mediaTools : Bool
  scriptModel : Bool
  editingJob : Option RunningLocalEditingJob := none
  smartEditJob : Option RunningSmartEditJob := none
  readings : List Reading := []

/-- What an operation's calls to the system come to: whether `try_wait` works, whether the
command is written, and, for a smart edit, the error with which its request directory could
not be made, whether its result is found and accepted, and whether its directory is removed. -/
structure Calls where
  waits : Bool := true
  written : Bool := true
  stagingError : Option VideoWorkerErrorCode := none
  loaded : Bool := true
  removed : Bool := true

/-! ## Events -/

inductive VideoWorkerLocalEditingEvent where
  | progress (phase : LocalEditingWorkerPhase) (progressPerMille : Nat)
  | succeeded (outputArtifactId : Uuid4)
  | failed (failureCode : LocalEditingWorkerFailureCode)
  | cancelled
  deriving DecidableEq

inductive VideoWorkerSmartEditEvent where
  | progress (stage : SmartEditGenerationStage) (progressPerMille : Nat)
  | prepared (resultDigest : Digest)
  | failed (failureCode : LocalSmartEditFailureCode)
  | cancelled
  deriving DecidableEq

/-- mirrors local_video_orchestrator.rs:3477-3608 -/
def parseLocalEditingEvent (state : RunningLocalEditingJob) :
    Line → Option (RunningLocalEditingJob × VideoWorkerLocalEditingEvent)
  | .progress jobId phase perMille =>
    if jobId = state.jobId ∧ perMille ≤ 1000 ∧
        inOrder (state.phase.map (·.order)) state.progressPerMille phase.order perMille then
      some ({ state with phase := some phase, progressPerMille := perMille },
        .progress phase perMille)
    else none
  | .succeeded jobId outputArtifactId =>
    if jobId = state.jobId ∧ state.phase = some .publishing ∧ state.progressPerMille = 1000 then
      some ({ state with terminal := true }, .succeeded outputArtifactId)
    else none
  | .failed jobId failureCode =>
    if jobId = state.jobId then some ({ state with terminal := true }, .failed failureCode)
    else none
  | .cancelled jobId =>
    if jobId = state.jobId ∧ state.cancelling then
      some ({ state with terminal := true }, .cancelled)
    else none
  | _ => none

/-- mirrors local_video_orchestrator.rs:3706-3848 -/
def parseSmartEditEvent (state : RunningSmartEditJob) (loaded : Bool) :
    Line → Option (RunningSmartEditJob × VideoWorkerSmartEditEvent)
  | .smartEditProgress jobId stage perMille =>
    if jobId = state.jobId ∧ perMille ≤ 1000 ∧ state.preparedDigest = none ∧
        inOrder (state.stage.map (·.order)) state.progressPerMille stage.order perMille then
      some ({ state with stage := some stage, progressPerMille := perMille },
        .progress stage perMille)
    else none
  | .smartEditPrepared jobId resultDigest =>
    if jobId = state.jobId ∧ state.stage = some .completed ∧ state.progressPerMille = 1000 ∧
        state.preparedDigest = none ∧ loaded then
      some ({ state with preparedDigest := some resultDigest }, .prepared resultDigest)
    else none
  | .smartEditFailed jobId failureCode =>
    if jobId = state.jobId then some ({ state with terminal := true }, .failed failureCode)
    else none
  | .smartEditCancelled jobId =>
    if jobId = state.jobId ∧ state.cancelling ∧ state.preparedDigest = none then
      some ({ state with terminal := true }, .cancelled)
    else none
  | _ => none

/-- Whether the line says that the commit succeeded; `none` when it is no answer to it.

mirrors local_video_orchestrator.rs:3850-3903 -/
def validSmartEditSucceeded (jobId : Uuid4) (resultDigest : Digest) : Line → Option Bool
  | .smartEditSucceeded j d => if j = jobId ∧ d = resultDigest then some true else none
  | .smartEditFailed j failureCode =>
    if j = jobId ∧ failureCode = .commitFailed then some false else none
  | _ => none

/-- mirrors local_video_orchestrator.rs:3905-3954 -/
def validSmartEditAborted (jobId : Uuid4) : Line → Option Bool
  | .smartEditAborted j => if j = jobId then some true else none
  | .smartEditFailed j failureCode =>
    if j = jobId ∧ failureCode = .localFailed then some false else none
  | _ => none

/-- What the answer to a commit or an abort says. -/
def validFinalization (action : Action) (jobId : Uuid4) (resultDigest : Digest) (line : Line) :
    Option Bool :=
  match action with
  | .commit => validSmartEditSucceeded jobId resultDigest line
  | .abort => validSmartEditAborted jobId line

/-- The answer to a material command.

mirrors local_video_orchestrator.rs:1670-1857, what the three do with
the line -/
def materialAnswer (command : MaterialCommand) (materialId : Uuid4) :
    Line → Option MaterialAnswer
  | .material m answer => if m = materialId ∧ answer.command = command then some answer else none
  | _ => none

/-! ## Operations -/

namespace RunningVideoWorker

variable (r : RunningVideoWorker)

/-- What an operation leaves, and what it returns. -/
abbrev Returns (α : Type) := RunningVideoWorker × Except VideoWorkerErrorCode α

/-- `child.try_wait()`. -/
def tryWait (calls : Calls) : Except VideoWorkerErrorCode (Option Bool) :=
  if calls.waits then .ok r.exited else .error .processUnavailable

/-- The place the next command will have in the stream. -/
def nextNumber : Nat := r.child.read + r.child.stdin.length

def send (command : Command) : RunningVideoWorker := { r with child := r.child.send command }

/-- A line is taken from the channel. -/
def receive (sink : List (Nat × Line)) (reading : Reading) : RunningVideoWorker :=
  { r with child := { r.child with sink := sink }, readings := r.readings ++ [reading] }

/-- mirrors local_video_orchestrator.rs:1924-1978 -/
def startLocalEditingJob (jobId : Uuid4) (request : VideoWorkerLocalEditingJobRequest)
    (calls : Calls) : Returns Unit :=
  if r.mediaTools = false ∨ r.editingJob ≠ none ∨ r.smartEditJob ≠ none then
    (r, .error .configurationInvalid)
  else
    match r.tryWait calls with
    | .error e => (r, .error e)
    | .ok (some _) => (r, .error .processUnavailable)
    | .ok none =>
      if calls.written then
        ({ r.send (.editingStart jobId request.projectId request.timelineId
              request.timelineRevision) with
            editingJob := some { jobId := jobId, number := r.nextNumber } }, .ok ())
      else (r, .error .processUnavailable)

/-- mirrors local_video_orchestrator.rs:1980-2010 -/
def tryLocalEditingEvent (jobId : Uuid4) : Returns (Option VideoWorkerLocalEditingEvent) :=
  match r.editingJob.filter (·.jobId = jobId) with
  | none => (r, .error .configurationInvalid)
  | some state =>
    match r.child.sink with
    | [] => (r, if r.exited = none then .ok none else .error .processUnavailable)
    | (number, line) :: sink =>
      match if state.terminal then none else parseLocalEditingEvent state line with
      | none => (r.receive sink ⟨state.number, number, line, false⟩, .error .authenticationRejected)
      | some (state, event) =>
        ({ r.receive sink ⟨state.number, number, line, true⟩ with editingJob := some state },
          .ok (some event))

/-- mirrors local_video_orchestrator.rs:2024-2057 -/
def requestLocalEditingCancel (jobId : Uuid4) (calls : Calls) : Returns Unit :=
  match r.editingJob.filter fun state => state.jobId = jobId ∧ state.terminal = false with
  | none => (r, .error .configurationInvalid)
  | some state =>
    if state.cancelling then (r, .error .configurationInvalid)
    else if calls.written then
      ({ r.send (.cancel jobId) with editingJob := some { state with cancelling := true } },
        .ok ())
    else (r, .error .processUnavailable)

/-- mirrors local_video_orchestrator.rs:2084-2104 -/
def finishLocalEditingJob (jobId : Uuid4) : Returns Unit :=
  match r.editingJob.filter fun state => state.jobId = jobId ∧ state.terminal with
  | none => (r, .error .configurationInvalid)
  | some _ => ({ r with editingJob := none }, .ok ())

/-- mirrors local_video_orchestrator.rs:2106-2165 -/
def startSmartEditJob (jobId : Uuid4) (calls : Calls) : Returns Unit :=
  if r.mediaTools = false ∨ r.scriptModel = false ∨ r.editingJob ≠ none ∨
      r.smartEditJob ≠ none then (r, .error .configurationInvalid)
  else
    match r.tryWait calls with
    | .error e => (r, .error e)
    | .ok (some _) => (r, .error .configurationInvalid)
    | .ok none =>
      match calls.stagingError with
      | some e => (r, .error e)
      | none =>
        if calls.written then
          ({ r.send (.smartEditStart jobId) with
              smartEditJob := some { jobId := jobId, number := r.nextNumber } }, .ok ())
        else (r, .error .processUnavailable)

/-- mirrors local_video_orchestrator.rs:2167-2192 -/
def trySmartEditEvent (jobId : Uuid4) (calls : Calls) :
    Returns (Option VideoWorkerSmartEditEvent) :=
  match r.smartEditJob.filter fun state => state.jobId = jobId ∧ state.terminal = false with
  | none => (r, .error .configurationInvalid)
  | some state =>
    match r.child.sink with
    | [] => (r, if r.exited = none then .ok none else .error .processUnavailable)
    | (number, line) :: sink =>
      match parseSmartEditEvent state calls.loaded line with
      | none => (r.receive sink ⟨state.number, number, line, false⟩, .error .authenticationRejected)
      | some (state, event) =>
        ({ r.receive sink ⟨state.number, number, line, true⟩ with smartEditJob := some state },
          .ok (some event))

/-- mirrors local_video_orchestrator.rs:2194-2229 -/
def requestSmartEditCancel (jobId : Uuid4) (calls : Calls) : Returns Unit :=
  match r.smartEditJob.filter fun state => state.jobId = jobId ∧ state.terminal = false ∧
      state.preparedDigest = none ∧ state.cancelling = false with
  | none => (r, .error .configurationInvalid)
  | some state =>
    if calls.written then
      ({ r.send (.cancel jobId) with smartEditJob := some { state with cancelling := true } },
        .ok ())
    else (r, .error .processUnavailable)

/-- mirrors local_video_orchestrator.rs:2332-2349 -/
def finishSmartEditJob (jobId : Uuid4) (calls : Calls) : Returns Unit :=
  match r.smartEditJob.filter fun state => state.jobId = jobId ∧ state.terminal with
  | none => (r, .error .configurationInvalid)
  | some _ =>
    if calls.removed then ({ r with smartEditJob := none }, .ok ())
    else (r, .error .processUnavailable)

/-! ### Operations that wait for an answer -/

/-- The request whose answer is awaited. -/
inductive Pending where
  | finalize (number : Nat) (action : Action) (jobId : Uuid4) (resultDigest : Digest)
  | material (number : Nat) (command : MaterialCommand) (materialId : Uuid4)
  deriving DecidableEq

/-- What `finalize_smart_edit_job` writes.

mirrors local_video_orchestrator.rs:2272-2315 -/
def finalizeSmartEditJob (jobId : Uuid4) (action : Action) (calls : Calls) : Returns Pending :=
  match r.smartEditJob.filter fun state => state.jobId = jobId ∧ state.terminal = false ∧
      state.preparedDigest ≠ none ∧ (action = .commit → state.cancelling = false) with
  | none => (r, .error .configurationInvalid)
  | some state =>
    match state.preparedDigest with
    | none => (r, .error .configurationInvalid)
    | some digest =>
      if calls.written then
        (r.send (.smartEditFinalize action jobId),
          .ok (.finalize r.nextNumber action jobId digest))
      else (r, .error .processUnavailable)

/-- mirrors local_video_orchestrator.rs:3386-3416 and 1670-1857, what
the three operations write -/
def requestLocalMaterial (command : MaterialCommand) (materialId : Uuid4) (calls : Calls) :
    Returns Pending :=
  if r.mediaTools = false ∨ r.editingJob ≠ none ∨ r.smartEditJob ≠ none then
    (r, .error .configurationInvalid)
  else
    match r.tryWait calls with
    | .error e => (r, .error e)
    | .ok (some _) => (r, .error .processUnavailable)
    | .ok none =>
      if calls.written then
        (r.send (.material command materialId), .ok (.material r.nextNumber command materialId))
      else (r, .error .processUnavailable)

/-- What `finalize_smart_edit_job` makes of the answer.

mirrors local_video_orchestrator.rs:2315-2330 -/
def finalizeAnswered (number : Nat) (action : Action) (jobId : Uuid4) (resultDigest : Digest)
    (answer : Nat × Line) (sink : List (Nat × Line)) (calls : Calls) : Returns Unit :=
  let valid := validFinalization action jobId resultDigest answer.2
  let r := r.receive sink ⟨number, answer.1, answer.2, valid.isSome⟩
  match valid with
  | none => (r, .error .authenticationRejected)
  | some false =>
    ({ r with smartEditJob := r.smartEditJob.map fun state => { state with terminal := true } },
      .error .renderRejected)
  | some true =>
    if calls.removed then ({ r with smartEditJob := none }, .ok ())
    else (r, .error .processUnavailable)

/-- mirrors local_video_orchestrator.rs:1670-1857, what the three
operations make of the answer -/
def materialAnswered (number : Nat) (command : MaterialCommand) (materialId : Uuid4)
    (answer : Nat × Line) (sink : List (Nat × Line)) : Returns MaterialAnswer :=
  let valid := materialAnswer command materialId answer.2
  let r := r.receive sink ⟨number, answer.1, answer.2, valid.isSome⟩
  match valid with
  | none => (r, .error .authenticationRejected)
  | some answer => (r, .ok answer)

/-- What the awaited answer does. -/
def answered (pending : Pending) (answer : Nat × Line) (sink : List (Nat × Line))
    (calls : Calls) : RunningVideoWorker :=
  match pending with
  | .finalize number action jobId resultDigest =>
    (r.finalizeAnswered number action jobId resultDigest answer sink calls).1
  | .material number command materialId =>
    (r.materialAnswered number command materialId answer sink).1

section Answered
variable {r : RunningVideoWorker} {number : Nat} {answer : Nat × Line} {sink : List (Nat × Line)}
  {calls : Calls}

theorem answered_rejected {action : Action} {jobId : Uuid4} {digest : Digest}
    (h : validFinalization action jobId digest answer.2 = some false) :
    r.answered (.finalize number action jobId digest) answer sink calls =
      { r.receive sink ⟨number, answer.1, answer.2, true⟩ with
        smartEditJob := r.smartEditJob.map fun state => { state with terminal := true } } := by
  simp [answered, finalizeAnswered, h, receive]

theorem answered_accepted {action : Action} {jobId : Uuid4} {digest : Digest}
    (h : validFinalization action jobId digest answer.2 = some true) :
    r.answered (.finalize number action jobId digest) answer sink calls =
      if calls.removed then
        { r.receive sink ⟨number, answer.1, answer.2, true⟩ with smartEditJob := none }
      else r.receive sink ⟨number, answer.1, answer.2, true⟩ := by
  simp only [answered, finalizeAnswered, h, Option.isSome_some]
  split <;> rfl

theorem answered_material {command : MaterialCommand} {materialId : Uuid4} {a : MaterialAnswer}
    (h : materialAnswer command materialId answer.2 = some a) :
    r.answered (.material number command materialId) answer sink calls =
      r.receive sink ⟨number, answer.1, answer.2, true⟩ := by
  simp [answered, materialAnswered, h]

end Answered

end RunningVideoWorker

end AutomationTool.Desktop
