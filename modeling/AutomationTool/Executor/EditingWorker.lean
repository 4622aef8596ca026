import AutomationTool.Core.LTS
import AutomationTool.Executor.EditingProtocol

/-!
# The editing worker

The worker process runs a command loop, a thread for each accepted operation, and a timer
for a smart edit that waits to be committed. They share the protocol's active operation and
the slot of the staged smart edit.

A section under a lock is one step here; between two steps anybody else may run. A thread
produces its lines under the lock and prints them afterwards, outside it, so `out` holds
what a thread has produced and not yet printed, and a thread goes on with its `task` once
`out` is empty. What the work itself comes to, and whether a directory can be removed or a
timer started, is the step's `Outcome`.

A thread and a line carry the number of the command they belong to, which is its place in
the stream of commands. The code has no such number; nothing here depends on it.
-/
namespace AutomationTool.Executor.EditingWorker

/-! ## Threads -/

/-- mirrors smart_edit_worker_process.py:361-369; its
`finalized` is `Worker.finalized` -/
structure Staged where
  number : Nat
  jobId : Uuid4
  resultDigest : Digest
  deriving DecidableEq

inductive Finalization where
  | committed | aborted
  deriving DecidableEq

/-- Where `render` stands.

mirrors worker_main.py:345-385 -/
inductive RenderPc where
  | preparing
  | rendering
  | executing
  | publishing (artifactId : Uuid4)
  | cancelling
  | failing (failureCode : LocalEditingWorkerFailureCode)
  deriving DecidableEq

/-- Where `smart_edit` stands. `rejected` is the handler of a rejection, `recovering` the one
of any other exception; `prepared` is the job staged so far.

mirrors worker_main.py:387-475 -/
inductive SmartEditPc where
  | generating (stage : SmartEditGenerationStage)
  | writing
  | prepared (job : Staged)
  | aborting (job : Staged)
  | cancelling (prepared : Option Staged)
  | publishing (job : Staged)
  | rejected (prepared : Option Staged) (failureCode : LocalSmartEditFailureCode)
  | recovering (job : Staged)
  | failing (failureCode : LocalSmartEditFailureCode)
  deriving DecidableEq

inductive Task where
  | render (jobId : Uuid4) (pc : RenderPc)
  | smartEdit (jobId : Uuid4) (pc : SmartEditPc)
  | material (command : MaterialCommand) (materialId : Uuid4)
  deriving DecidableEq

structure Thread where
  number : Nat
  out : List Line := []
  task : Option Task
  deriving DecidableEq

/-- What the step of a thread finds. -/
inductive Outcome where
  /-- The work up to the next report is done; `voiced` tells whether materials that speak
  for themselves made the script unnecessary. -/
  | done (voiced : Bool)
  | rendered (artifactId : Uuid4)
  | staged (resultDigest : Digest)
  | cancelled
  | rejected (failureCode : LocalEditingWorkerFailureCode)
  | smartEditRejected (failureCode : LocalSmartEditFailureCode)
  | removes (removed : Bool)
  | starts (started : Bool)
  | answers (answer : MaterialAnswer)

/-- The per mille a stage is reported at.

mirrors smart_edit_generation.py:402-475 -/
def SmartEditGenerationStage.perMille : SmartEditGenerationStage → Nat
  | .preparing => 0
  | .analyzing => 100
  | .scripting => 350
  | .synthesizing => 500
  | .matching => 700
  | .selecting => 850
  | .publishing => 950
  | .completed => 1000

/-- The stage reported next.

mirrors smart_edit_generation.py:402-475 -/
def SmartEditGenerationStage.next (voiced : Bool) :
    SmartEditGenerationStage → Option SmartEditGenerationStage
  | .preparing => some .analyzing
  | .analyzing => some (if voiced then .selecting else .scripting)
  | .scripting => some .synthesizing
  | .synthesizing => some .matching
  | .matching => some .selecting
  | .selecting => some .publishing
  | .publishing => some .completed
  | .completed => none

/-! ## The process -/

/-- What happened, for the statements about whole runs. -/
inductive Entry where
  | accepted (command : Command)
  | staged (number : Nat)
  | finalized (number : Nat) (how : Finalization)
  | emitted (line : Line)
  deriving DecidableEq

structure Worker where
  /-- Commands written and not yet read. -/
  stdin : List Command := []
  /-- How many were read. -/
  read : Nat := 0
  active : Option Active := none
  cancelRequested : Bool := false
  /-- The accepted command the loop has still to carry out. -/
  command : Option (Nat × Command) := none
  /-- What the loop produced and has not yet printed. -/
  loopOut : List (Nat × Line) := []
  threads : List Thread := []
  smartStaged : Option Staged := none
  /-- The job of the commit timer that runs. -/
  smartCommitTimer : Option Uuid4 := none
  smartCleanupPending : List Staged := []
  /-- The staged jobs whose `finalized` is set. -/
  finalized : List Nat := []
  /-- Lines printed and not yet read. -/
  sink : List (Nat × Line) := []
  log : List Entry := []
  deriving DecidableEq

namespace Worker

variable (W : Worker)

def record (e : Entry) : Worker := { W with log := W.log ++ [e] }

def finalize (job : Staged) (how : Finalization) : Worker :=
  { W with finalized := job.number :: W.finalized, log := W.log ++ [.finalized job.number how] }

/-- `none` when it raises; `removed` tells whether the directory could be removed.

mirrors smart_edit_worker_process.py:702-707 -/
def abortSmartEditJob (job : Staged) (removed : Bool) : Option Worker :=
  if job.number ∈ W.finalized ∨ removed = false then none else some (W.finalize job .aborted)

/-- mirrors smart_edit_worker_process.py:643-699;
`committed` tells whether its checks, the move and the registration succeeded -/
def commitSmartEditJob (job : Staged) (committed : Bool) : Option Worker :=
  if job.number ∈ W.finalized ∨ committed = false then none
  else some (W.finalize job .committed)

/-- `if not finalized: try: abort … except: smart_cleanup_pending.append`. -/
def abandon (job : Staged) (removed : Bool) : Worker :=
  if job.number ∈ W.finalized then W
  else match W.abortSmartEditJob job removed with
    | some W => W
    | none => { W with smartCleanupPending := W.smartCleanupPending ++ [job] }

/-- A report under `suppress(Exception)`: no line when the protocol rejects it. -/
def report (r : Report) : Worker × List Line :=
  match r with
  | some (line, active) => ({ W with active := active }, [line])
  | none => (W, [])

/-- The thread goes on with `next` after a report, with `rejected` when there is none. -/
def produce (t : Thread) (r : Report) (next rejected : Option Task) : Worker × Thread :=
  match r with
  | some (line, active) =>
    ({ W with active := active }, { t with out := [line], task := next })
  | none => (W, { t with task := rejected })

/-- mirrors worker_main.py:345-385 -/
def renderStep (t : Thread) (jobId : Uuid4) : RenderPc → Outcome → Option (Worker × Thread)
  | .preparing, .done _ =>
    some (W.produce t (progress W.active jobId .preparing 0)
      (some (.render jobId .rendering)) (some (.render jobId (.failing .renderFailed))))
  | .rendering, .done _ =>
    some (W.produce t (progress W.active jobId .rendering 800)
      (some (.render jobId .executing)) (some (.render jobId (.failing .renderFailed))))
  | .executing, .rendered artifactId =>
    some (W, { t with task := some (.render jobId (.publishing artifactId)) })
  | .executing, .cancelled =>
    if W.cancelRequested then some (W, { t with task := some (.render jobId .cancelling) })
    else none
  | .executing, .rejected failureCode =>
    some (W, { t with task := some (.render jobId (.failing failureCode)) })
  | .publishing artifactId, .done _ =>
    match progress W.active jobId .publishing 1000 with
    | some (publishing, active) =>
      match succeed active jobId artifactId with
      | some (succeeded, active) =>
        some ({ W with active := active },
          { t with out := [publishing, succeeded], task := none })
      | none =>
        some ({ W with active := active },
          { t with task := some (.render jobId (.failing .renderFailed)) })
    | none => some (W, { t with task := some (.render jobId (.failing .renderFailed)) })
  | .cancelling, .done _ =>
    some (W.produce t (EditingWorker.cancelled W.active jobId) none none)
  | .failing failureCode, .done _ =>
    some (W.produce t (fail W.active jobId failureCode) none none)
  | _, _ => none

/-- The section that publishes a staged job; whatever raises in it leaves the slot as it is.

mirrors worker_main.py:419-438 -/
def publishStaged (t : Thread) (jobId : Uuid4) (job : Staged) (started : Bool) :
    Worker × Thread :=
  let recovering := { t with task := some (.smartEdit jobId (.recovering job)) }
  if W.smartStaged ≠ none then (W, recovering)
  else
    match smartEditPrepared W.active jobId job.resultDigest with
    | none => ({ W with smartStaged := some job }, recovering)
    | some (prepared, active) =>
      if started then
        ({ W with smartStaged := some job, active := active, smartCommitTimer := some jobId },
          { t with out := [prepared], task := none })
      else ({ W with smartStaged := some job, active := active }, recovering)

/-- The handler of an unexpected exception.

mirrors worker_main.py:455-475 -/
def recover (jobId : Uuid4) (job : Staged) (removed : Bool) : Worker :=
  let W := { W with smartCommitTimer := none }
  match W.smartStaged with
  | some published =>
    if published.jobId = jobId then { W.abandon published removed with smartStaged := none }
    else W.abandon job removed
  | none => W.abandon job removed

/-- mirrors worker_main.py:387-475 and
smart_edit_worker_process.py:494-586 -/
def smartEditStep (t : Thread) (jobId : Uuid4) :
    SmartEditPc → Outcome → Option (Worker × Thread)
  | .generating stage, .done voiced =>
    some (W.produce t (smartEditProgress W.active jobId stage stage.perMille)
      (some (.smartEdit jobId (match stage.next voiced with
        | some next => .generating next
        | none => .writing)))
      (some (.smartEdit jobId (.rejected none .upstreamRejected))))
  | .generating stage, .cancelled =>
    if W.cancelRequested ∧ stage ≠ .preparing then
      some (W, { t with task := some (.smartEdit jobId (.cancelling none)) })
    else none
  | .generating _, .smartEditRejected failureCode =>
    some (W, { t with task := some (.smartEdit jobId (.rejected none failureCode)) })
  | .writing, .staged resultDigest =>
    let job : Staged := { number := t.number, jobId := jobId, resultDigest := resultDigest }
    some (W.record (.staged t.number),
      { t with task := some (.smartEdit jobId (.prepared job)) })
  | .writing, .smartEditRejected failureCode =>
    some (W, { t with task := some (.smartEdit jobId (.rejected none failureCode)) })
  | .prepared job, .done _ =>
    some (W, { t with task := some (.smartEdit jobId
      (if W.cancelRequested then .aborting job else .publishing job)) })
  | .aborting job, .removes removed =>
    match W.abortSmartEditJob job removed with
    | some W => some (W, { t with task := some (.smartEdit jobId (.cancelling (some job))) })
    | none =>
      some (W, { t with task := some (.smartEdit jobId (.rejected (some job)
        (if job.number ∈ W.finalized then .localFailed else .workspaceUnusable))) })
  | .cancelling prepared, .done _ =>
    some (W.produce t (smartEditCancelled W.active jobId) none
      (prepared.map fun job => .smartEdit jobId (.recovering job)))
  | .publishing job, .starts started => some (W.publishStaged t jobId job started)
  | .rejected prepared failureCode, .removes removed =>
    some (match prepared with | some job => W.abandon job removed | none => W,
      { t with task := some (.smartEdit jobId (.failing failureCode)) })
  | .recovering job, .removes removed =>
    some (W.recover jobId job removed,
      { t with task := some (.smartEdit jobId (.failing .localFailed)) })
  | .failing failureCode, .done _ =>
    some (W.produce t (smartEditFailed W.active jobId failureCode) none none)
  | _, _ => none

/-- mirrors worker_main.py:550-627, the three material threads -/
def materialStep (t : Thread) (command : MaterialCommand) (materialId : Uuid4) :
    Outcome → Option (Worker × Thread)
  | .answers answer =>
    if answer.command = command then
      some (W.produce t (materialAnswered W.active materialId answer) none none)
    else none
  | _ => none

/-- The next step of a thread that has printed what it produced. -/
def threadStep (t : Thread) (o : Outcome) : Option (Worker × Thread) :=
  match t.out, t.task with
  | [], some (.render jobId pc) => W.renderStep t jobId pc o
  | [], some (.smartEdit jobId pc) => W.smartEditStep t jobId pc o
  | [], some (.material command materialId) => W.materialStep t command materialId o
  | _, _ => none

/-- A thread that has nothing left ends. -/
def settle (i : Nat) (t : Thread) : Worker :=
  { W with threads := if t.out = [] ∧ t.task = none then W.threads.eraseIdx i
                      else W.threads.set i t }

/-- mirrors worker_main.py:501-548 -/
def finalizeSmartEdit (number : Nat) (action : Action) (jobId : Uuid4)
    (committed removed : Bool) : Worker :=
  match W.smartStaged with
  | none => W
  | some staged =>
    if staged.jobId ≠ jobId then W
    else
      let W := { W with smartCommitTimer := none }
      let (W, terminal) :=
        match action with
        | .abort =>
          match W.abortSmartEditJob staged removed with
          | some W =>
            match smartEditAborted W.active jobId with
            | some (line, active) => ({ W with active := active }, [line])
            | none => W.report (smartEditFailed W.active jobId .localFailed)
          | none =>
            let W := if staged.number ∈ W.finalized then W
              else { W with smartCleanupPending := W.smartCleanupPending ++ [staged] }
            W.report (smartEditFailed W.active jobId .localFailed)
        | .commit =>
          match W.commitSmartEditJob staged committed with
          | some W =>
            match smartEditSucceeded W.active jobId staged.resultDigest with
            | some (line, active) => ({ W with active := active }, [line])
            | none => W.report (smartEditFailed W.active jobId .commitFailed)
          | none =>
            let W := W.abandon staged removed
            W.report (smartEditFailed W.active jobId .commitFailed)
      { W with smartStaged := none, loopOut := terminal.map fun line => (number, line) }

/-- What the loop does with an accepted command.

mirrors worker_main.py:681-723 -/
def dispatch (number : Nat) (committed removed : Bool) : Command → Worker
  | .editingStart jobId _ _ _ =>
    { W with
      cancelRequested := false
      threads := W.threads ++ [{ number := number, task := some (.render jobId .preparing) }] }
  | .smartEditStart jobId =>
    { W with
      cancelRequested := false
      threads := W.threads ++
        [{ number := number, task := some (.smartEdit jobId (.generating .preparing)) }] }
  | .cancel _ => { W with cancelRequested := true }
  | .smartEditFinalize action jobId =>
    W.finalizeSmartEdit number action jobId committed removed
  | .material command materialId =>
    { W with threads :=
        W.threads ++ [{ number := number, task := some (.material command materialId) }] }
  | .other => W

/-- `parse_cancel_command`, tried on a rejected command of a session without an operation. -/
def legacyCancel (number : Nat) : Command → List (Nat × Line)
  | .cancel jobId => [(number, .workerCancelled jobId)]
  | _ => []

/-- The loop reads the next command.

mirrors worker_main.py:629-680 -/
def take : Option Worker :=
  match W.command, W.loopOut, W.stdin with
  | none, [], command :: stdin =>
    match acceptCommand W.active command with
    | some active =>
      some { W with
        stdin := stdin
        read := W.read + 1
        active := some active
        command := some (W.read, command)
        log := W.log ++ [.accepted command] }
    | none =>
      some { W with
        stdin := stdin
        read := W.read + 1
        loopOut := if W.active = none then legacyCancel W.read command else [] }
  | _, _, _ => none

/-- The commit timer fires; it does nothing for a job that is no longer staged.

mirrors worker_main.py:477-499 -/
def expireSmartEdit (removed : Bool) : Option Worker :=
  match W.smartCommitTimer with
  | none => none
  | some jobId =>
    let W := { W with smartCommitTimer := none }
    match W.smartStaged with
    | none => some W
    | some staged =>
      if staged.jobId ≠ jobId then some W
      else
        let W := match W.abortSmartEditJob staged removed with
          | some W => W
          | none => { W with smartCleanupPending := W.smartCleanupPending ++ [staged] }
        let (W, failed) := W.report (smartEditFailed W.active jobId .commitFailed)
        some { W with
          smartStaged := none
          threads := W.threads ++ failed.map fun line =>
            { number := staged.number, out := [line], task := none } }

def print (number : Nat) (line : Line) : Worker :=
  { W with sink := W.sink ++ [(number, line)], log := W.log ++ [.emitted line] }

end Worker

/-! ## Its steps -/

inductive Act where
  /-- The loop reads the next command. -/
  | take
  /-- The loop carries out the command it accepted. -/
  | dispatch (committed removed : Bool)
  /-- The loop prints its line. -/
  | loopPrint
  /-- The thread `i` goes on. -/
  | thread (i : Nat) (o : Outcome)
  /-- The thread `i` prints its next line. -/
  | print (i : Nat)
  /-- The commit timer fires. -/
  | expire (removed : Bool)

def Worker.act (W : Worker) : Act → Option Worker
  | .take => W.take
  | .dispatch committed removed =>
    match W.command with
    | some (number, command) =>
      some (({ W with command := none } : Worker).dispatch number committed removed command)
    | none => none
  | .loopPrint =>
    match W.loopOut with
    | (number, line) :: rest => some (({ W with loopOut := rest } : Worker).print number line)
    | [] => none
  | .thread i o =>
    match W.threads[i]? with
    | some t => (W.threadStep t o).map fun (W, t) => W.settle i t
    | none => none
  | .print i =>
    match W.threads[i]? with
    | some t =>
      match t.out with
      | line :: out => some ((W.print t.number line).settle i { t with out := out })
      | [] => none
    | none => none
  | .expire removed => W.expireSmartEdit removed

/-- A command is written to the worker. -/
def Worker.send (W : Worker) (command : Command) : Worker :=
  { W with stdin := W.stdin ++ [command] }

inductive Label where
  | send (command : Command)
  | act (a : Act)

def step (W : Worker) : Label → Option Worker
  | .send command => some (W.send command)
  | .act a => W.act a

/-- A worker that anybody may send anything. -/
def system : LTS Worker Label where
  init W := W = {}
  step W l W' := step W l = some W'

end AutomationTool.Executor.EditingWorker
