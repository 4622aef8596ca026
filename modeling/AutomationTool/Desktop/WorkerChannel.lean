import AutomationTool.Desktop.JobStanding

/-!
# The channel between the host and a running worker

One line channel in each direction, the host's operations on one side, the worker's threads
on the other. An operation that waits for an answer holds the host's lock, so nothing else
of the host happens until it has received a line or timed out.

`Sync strict c`: where the two sides stand to each other. `strict` says that the host also
accepts the results it is told of and removes the directory of a committed smart edit.
`sync_inductive`: they stay in step in a run whose steps are `undisturbed`.
-/
namespace AutomationTool.Desktop

open Executor.EditingWorker
open RunningVideoWorker (Pending)

structure Channel where
  running : RunningVideoWorker
  waiting : Option Pending := none

/-- A step of the worker, or a call of the host. -/
inductive Move where
  | act (act : Act)
  | startLocalEditingJob (jobId : Uuid4) (request : VideoWorkerLocalEditingJobRequest)
      (calls : Calls)
  | tryLocalEditingEvent (jobId : Uuid4)
  | requestLocalEditingCancel (jobId : Uuid4) (calls : Calls)
  | finishLocalEditingJob (jobId : Uuid4)
  | startSmartEditJob (jobId : Uuid4) (calls : Calls)
  | trySmartEditEvent (jobId : Uuid4) (calls : Calls)
  | requestSmartEditCancel (jobId : Uuid4) (calls : Calls)
  | finalizeSmartEditJob (jobId : Uuid4) (action : Action) (calls : Calls)
  | finishSmartEditJob (jobId : Uuid4) (calls : Calls)
  | requestLocalMaterial (command : MaterialCommand) (materialId : Uuid4) (calls : Calls)
  /-- The line that is waited for is received. -/
  | receive (calls : Calls)
  | timeOut

namespace Channel

/-- A call that waits when it has written its command. -/
def awaits (returned : RunningVideoWorker × Except VideoWorkerErrorCode Pending) : Channel where
  running := returned.1
  waiting := returned.2.toOption

/-- What a call of the host that is not waiting does. -/
def call (r : RunningVideoWorker) : Move → Channel
  | .startLocalEditingJob jobId request calls => ⟨(r.startLocalEditingJob jobId request calls).1, none⟩
  | .tryLocalEditingEvent jobId => ⟨(r.tryLocalEditingEvent jobId).1, none⟩
  | .requestLocalEditingCancel jobId calls => ⟨(r.requestLocalEditingCancel jobId calls).1, none⟩
  | .finishLocalEditingJob jobId => ⟨(r.finishLocalEditingJob jobId).1, none⟩
  | .startSmartEditJob jobId calls => ⟨(r.startSmartEditJob jobId calls).1, none⟩
  | .trySmartEditEvent jobId calls => ⟨(r.trySmartEditEvent jobId calls).1, none⟩
  | .requestSmartEditCancel jobId calls => ⟨(r.requestSmartEditCancel jobId calls).1, none⟩
  | .finalizeSmartEditJob jobId action calls => awaits (r.finalizeSmartEditJob jobId action calls)
  | .finishSmartEditJob jobId calls => ⟨(r.finishSmartEditJob jobId calls).1, none⟩
  | .requestLocalMaterial command materialId calls =>
    awaits (r.requestLocalMaterial command materialId calls)
  | .act _ | .receive _ | .timeOut => ⟨r, none⟩

def step (c : Channel) (move : Move) : Option Channel :=
  match move with
  | .act act =>
    (c.running.child.act act).map fun child => { c with running := { c.running with child := child } }
  | .receive calls =>
    match c.waiting, c.running.child.sink with
    | some pending, answer :: sink => some ⟨c.running.answered pending answer sink calls, none⟩
    | _, _ => none
  | .timeOut => if c.waiting = none then none else some { c with waiting := none }
  | move => if c.waiting = none then some (call c.running move) else none

/-- A worker that was just started. -/
structure Started (r : RunningVideoWorker) : Prop where
  child : r.child = {}
  editingJob : r.editingJob = none
  smartEditJob : r.smartEditJob = none
  readings : r.readings = []

/-- Any calls, in any order, while the worker runs. -/
def system : LTS Channel Move where
  init c := Started c.running ∧ c.waiting = none
  step c move c' := c.step move = some c'

end Channel

/-- No request times out; the loop reads a cancellation only while an operation is active;
the commit timer fires only when nothing waits for an answer and the worker has printed what
it produced, and a prepared smart edit is committed or aborted only while it is staged. When
`strict`, the host accepts the result it is told of, and removes the directory of a smart
edit it committed or aborted. -/
def Move.undisturbed (strict : Prop) : Move → Channel → Prop
  | .act .take, c =>
    ∀ j rest, c.running.child.stdin = .cancel j :: rest → c.running.child.active ≠ none
  | .act (.expire _), c => c.waiting = none ∧ c.running.child.threads = []
  | .finalizeSmartEditJob .., c => ∀ job, c.running.smartEditJob = some job →
      job.terminal = false → job.preparedDigest ≠ none → c.running.child.smartStaged ≠ none
  | .trySmartEditEvent _ calls, _ => strict → calls.loaded = true
  | .receive calls, _ => strict → calls.removed = true
  | .timeOut, _ => False
  | _, _ => True

/-! ## Where the two sides stand -/

/-- The host has one job and knows `h` of it. -/
inductive Hears (r : RunningVideoWorker) : Heard → Prop where
  | editing {job : RunningLocalEditingJob} (hjob : r.editingJob = some job)
      (hno : r.smartEditJob = none) : Hears r job.heard
  | smartEdit {job : RunningSmartEditJob} (hjob : r.smartEditJob = some job)
      (hno : r.editingJob = none) : Hears r job.heard

/-- A commit or an abort is on its way to the worker, accepted, or answered. -/
inductive Closing (W : Worker) (number : Nat) (action : Action) (jobId : Uuid4)
    (digest : Digest) : Prop where
  | sent {a : ActiveJob} {job : Staged} {l : List Command} (hactive : W.active = some (.job a))
      (hop : a.operation = .smartEdit) (hid : a.jobId = jobId) (hawaiting : a.awaitingCommit = true)
      (hdigest : a.resultDigest = some digest) (hcancelling : a.cancelling = false)
      (hfinalizing : a.finalizing = none) (hstaged : W.smartStaged = some job)
      (hjob : job.jobId = jobId) (hresult : job.resultDigest = digest) (hthreads : W.threads = [])
      (hcommand : W.command = none) (hloop : W.loopOut = []) (hsink : W.sink = [])
      (hstdin : W.stdin = l ++ [.smartEditFinalize action jobId])
      (hcancels : ∀ c ∈ l, ∃ j, c = .cancel j) (hnumber : number = W.read + l.length) :
      Closing W number action jobId digest
  | accepted {a : ActiveJob} {job : Staged} (hactive : W.active = some (.job a))
      (hop : a.operation = .smartEdit) (hid : a.jobId = jobId)
      (hdigest : a.resultDigest = some digest) (hfinalizing : a.finalizing = some action)
      (hstaged : W.smartStaged = some job) (hjob : job.jobId = jobId)
      (hresult : job.resultDigest = digest) (hthreads : W.threads = [])
      (hcommand : W.command = some (number, .smartEditFinalize action jobId))
      (hloop : W.loopOut = []) (hsink : W.sink = []) (hstdin : W.stdin = []) :
      Closing W number action jobId digest
  | answered {line : Line} (hactive : W.active = none) (hcommand : W.command = none)
      (hthreads : W.threads = []) (hstaged : W.smartStaged = none)
      (htimer : W.smartCommitTimer = none) (hstdin : W.stdin = [])
      (hline : W.loopOut = [(number, line)] ∧ W.sink = [] ∨
        W.loopOut = [] ∧ W.sink = [(number, line)])
      (hvalid : (validFinalization action jobId digest line).isSome) :
      Closing W number action jobId digest

/-- A material command is on its way to the worker, accepted, at work, or answered. -/
inductive Serving (W : Worker) (number : Nat) (command : MaterialCommand) (materialId : Uuid4) :
    Prop where
  | sent (hquiet : Quiet W) (hsink : W.sink = []) (hstdin : W.stdin = [.material command materialId])
      (hnumber : number = W.read) : Serving W number command materialId
  | accepted (hactive : W.active = some (.material materialId command))
      (hcommand : W.command = some (number, .material command materialId)) (hthreads : W.threads = [])
      (hloop : W.loopOut = []) (hstaged : W.smartStaged = none) (htimer : W.smartCommitTimer = none)
      (hsink : W.sink = []) (hstdin : W.stdin = []) : Serving W number command materialId
  | working (hactive : W.active = some (.material materialId command)) (hcommand : W.command = none)
      (hthreads : W.threads = [⟨number, [], some (.material command materialId)⟩])
      (hloop : W.loopOut = []) (hstaged : W.smartStaged = none) (htimer : W.smartCommitTimer = none)
      (hsink : W.sink = []) (hstdin : W.stdin = []) : Serving W number command materialId
  | answered {answer : MaterialAnswer} (hcommand' : answer.command = command)
      (hactive : W.active = none) (hcommand : W.command = none) (hloop : W.loopOut = [])
      (hstaged : W.smartStaged = none) (htimer : W.smartCommitTimer = none) (hstdin : W.stdin = [])
      (hline : W.threads = [⟨number, [.material materialId answer], none⟩] ∧ W.sink = [] ∨
        W.threads = [] ∧ W.sink = [(number, .material materialId answer)]) :
      Serving W number command materialId

inductive Sync (strict : Prop) (c : Channel) : Prop where
  | idle (hwait : c.waiting = none) (hedit : c.running.editingJob = none)
      (hsmart : c.running.smartEditJob = none) (hquiet : Quiet c.running.child)
      (hsink : c.running.child.sink = []) (hstdin : c.running.child.stdin = []) : Sync strict c
  /-- A cancellation reaches the worker too late, and is not read. -/
  | late {j : Uuid4} {l : List Command} (hquiet : Quiet c.running.child)
      (hsink : c.running.child.sink = []) (hstdin : c.running.child.stdin = .cancel j :: l)
      (hedit : ∀ job, c.running.editingJob = some job → job.terminal = false)
      (hsmart : ∀ job, c.running.smartEditJob = some job → job.terminal = false ∧
        job.preparedDigest = none ∧ c.running.child.read ≤ job.number)
      (hone : c.running.editingJob = none ∨ c.running.smartEditJob = none) : Sync strict c
  | job {k h : Heard} {l : List Line} (hwait : c.waiting = none) (hhears : Hears c.running k)
      (hflight : flight c.running.child = numbered k.number l)
      (hheard : k.hearAll l = some h) (hstand : Stand c.running.child h) : Sync strict c
  /-- The directory of a smart edit that was committed or aborted could not be removed. -/
  | left {job : RunningSmartEditJob} (hloose : ¬strict) (hwait : c.waiting = none)
      (hsmart : c.running.smartEditJob = some job) (hedit : c.running.editingJob = none)
      (hlive : job.terminal = false) (hprepared : job.preparedDigest ≠ none)
      (hquiet : Quiet c.running.child) (hsink : c.running.child.sink = [])
      (hstdin : c.running.child.stdin = []) : Sync strict c
  | closing {number : Nat} {action : Action} {jobId : Uuid4} {digest : Digest}
      {job : RunningSmartEditJob} (hwait : c.waiting = some (.finalize number action jobId digest))
      (hsmart : c.running.smartEditJob = some job) (hedit : c.running.editingJob = none)
      (hlive : job.terminal = false) (hprepared : job.preparedDigest = some digest)
      (hclosing : Closing c.running.child number action jobId digest) : Sync strict c
  | serving {number : Nat} {command : MaterialCommand} {materialId : Uuid4}
      (hwait : c.waiting = some (.material number command materialId))
      (hedit : c.running.editingJob = none) (hsmart : c.running.smartEditJob = none)
      (hserving : Serving c.running.child number command materialId) : Sync strict c

/-- What was read belongs to what it was read for, and, when `strict`, was accepted. -/
def Kept (strict : Prop) (r : RunningVideoWorker) : Prop :=
  ∀ reading ∈ r.readings, reading.number = reading.wanted ∧ (strict → reading.accepted = true)

/-! ## The steps of the worker -/

section Worker
variable {W W' : Worker} {act : Act}

/-- A quiet worker that reads nothing has at most a cancellation to carry out. -/
theorem quiet_act (hq : Quiet W) (hw : W.act act = some W') (htake : act ≠ .take) :
    Quiet W' ∧ W'.sink = W.sink ∧ W'.stdin = W.stdin ∧ W'.read = W.read := by
  cases act with
  | take => exact absurd rfl htake
  | dispatch committed removed =>
    simp only [Worker.act] at hw
    split at hw
    rotate_left
    · cases hw
    rename_i n command hcommand
    cases hw
    obtain ⟨j, hj⟩ := hq.command _ hcommand
    dsimp only at hj
    subst hj
    exact ⟨⟨hq.active, (fun p hp => by cases hp), hq.loopOut, hq.threads, hq.staged, hq.timer⟩,
      rfl, rfl, rfl⟩
  | loopPrint =>
    rw [Worker.act, hq.loopOut] at hw
    cases hw
  | thread i o =>
    rw [Worker.act, hq.threads] at hw
    cases hw
  | print i =>
    rw [Worker.act, hq.threads] at hw
    cases hw
  | expire removed =>
    rw [Worker.act, Worker.expireSmartEdit, hq.timer] at hw
    cases hw

section Closing
variable {action : Action} {jobId : Uuid4} {digest : Digest}

/-- What the loop leaves when it has committed or aborted a staged job. -/
structure Finalized (W W' : Worker) (number : Nat) (line : Line) : Prop where
  active : W'.active = none
  command : W'.command = W.command
  threads : W'.threads = W.threads
  staged : W'.smartStaged = none
  timer : W'.smartCommitTimer = none
  stdin : W'.stdin = W.stdin
  sink : W'.sink = W.sink
  loopOut : W'.loopOut = [(number, line)]

/-- Whatever becomes of the files, the answer is one the host takes. -/
theorem finalize_answers (number : Nat) {a : ActiveJob} {job : Staged} (hactive : W.active = some (.job a))
    (hop : a.operation = .smartEdit) (hid : a.jobId = jobId)
    (hdigest : a.resultDigest = some digest) (hfinalizing : a.finalizing = some action)
    (hstaged : W.smartStaged = some job) (hjob : job.jobId = jobId)
    (hresult : job.resultDigest = digest) (committed removed : Bool) :
    ∃ line, (validFinalization action jobId digest line).isSome ∧
      Finalized W (W.finalizeSmartEdit number action jobId committed removed) number line := by
  subst hid hresult
  simp only [Worker.finalizeSmartEdit, hstaged, hjob, ne_eq, not_true_eq_false, if_false]
  cases action with
  | abort =>
    simp only [Worker.abortSmartEditJob]
    by_cases hcond : job.number ∈ W.finalized ∨ removed = false
    · rw [if_pos hcond]
      refine ⟨.smartEditFailed a.jobId .localFailed, by simp [validFinalization,
        validSmartEditAborted], ?_⟩
      dsimp only
      split <;> simp only [Worker.report, hactive, smartEditFailed_job hop] <;>
        exact ⟨rfl, rfl, rfl, rfl, rfl, rfl, rfl, rfl⟩
    · rw [if_neg hcond]
      refine ⟨.smartEditAborted a.jobId, by simp [validFinalization, validSmartEditAborted], ?_⟩
      simp only [Worker.finalize, hactive, smartEditAborted_job hop hfinalizing]
      exact ⟨rfl, rfl, rfl, rfl, rfl, rfl, rfl, rfl⟩
  | commit =>
    simp only [Worker.commitSmartEditJob]
    by_cases hcond : job.number ∈ W.finalized ∨ committed = false
    · rw [if_pos hcond]
      refine ⟨.smartEditFailed a.jobId .commitFailed, by simp [validFinalization,
        validSmartEditSucceeded], ?_⟩
      obtain ⟨pending, finalized, log, heq⟩ := abandon_eq
        { W with smartCommitTimer := none, smartStaged := some job } job removed
      dsimp only
      rw [heq]
      simp only [Worker.report, hactive, smartEditFailed_job hop]
      exact ⟨rfl, rfl, rfl, rfl, rfl, rfl, rfl, rfl⟩
    · rw [if_neg hcond]
      refine ⟨.smartEditSucceeded a.jobId job.resultDigest, by simp [validFinalization,
        validSmartEditSucceeded], ?_⟩
      simp only [Worker.finalize, hactive, smartEditSucceeded_job hop hfinalizing hdigest]
      exact ⟨rfl, rfl, rfl, rfl, rfl, rfl, rfl, rfl⟩

/-- A commit or an abort makes its way through the worker; the timer does not fire. -/
theorem closing_act {number : Nat} (hc : Closing W number action jobId digest) (hw : W.act act = some W')
    (hexpire : ∀ removed, act ≠ .expire removed) : Closing W' number action jobId digest := by
  have hidle (hthreads : W.threads = []) : (∀ i o, act ≠ .thread i o) ∧ ∀ i, act ≠ .print i := by
    constructor
    · rintro i o rfl
      rw [Worker.act, hthreads] at hw
      cases hw
    · rintro i rfl
      rw [Worker.act, hthreads] at hw
      cases hw
  cases hc with
  | @sent a job cancels hactive hop hid hawaiting hdigest hcancelling hfin hstaged hjob hresult
      hthreads hcommand hloop hsink hstdin hcancels hnumber =>
    cases act with
    | take =>
      obtain ⟨-, -, command, stdin, hin, hcases⟩ := take_cases hw
      rw [hstdin] at hin
      cases cancels with
      | nil =>
        cases hin
        have haccepts : acceptCommand W.active (.smartEditFinalize action jobId) =
            some (.job { a with finalizing := some action }) := by
          subst hid
          simp [acceptCommand, acceptSmartEditFinalize, hactive, requireActive_job _ hop, hawaiting,
            hdigest, hcancelling, hfin]
        obtain ⟨active, haccept, rfl⟩ | ⟨haccept, -⟩ := hcases
        · rw [haccepts] at haccept
          cases haccept
          exact .accepted (a := { a with finalizing := some action }) rfl hop hid hdigest rfl
            hstaged hjob hresult hthreads (by rw [hnumber]; rfl) hloop hsink rfl
        · rw [haccepts] at haccept
          cases haccept
      | cons c cancels =>
        cases hin
        obtain ⟨j, rfl⟩ := hcancels _ List.mem_cons_self
        obtain ⟨active, haccept, -⟩ | ⟨-, rfl⟩ := hcases
        · rw [hactive] at haccept
          rcases accept_job haccept with ⟨-, -, hno, -⟩ | ⟨_, _, hno, -⟩
          · rw [hawaiting] at hno
            cases hno
          · cases hno
        · refine .sent hactive hop hid hawaiting hdigest hcancelling hfin hstaged hjob hresult
            hthreads hcommand (if_neg (by rw [hactive]; simp)) hsink rfl
            (fun d hd => hcancels d (List.mem_cons_of_mem _ hd)) ?_
          rw [List.length_cons] at hnumber
          show number = W.read + 1 + cancels.length
          omega
    | dispatch committed removed =>
      rw [Worker.act, hcommand] at hw
      cases hw
    | loopPrint =>
      rw [Worker.act, hloop] at hw
      cases hw
    | thread i o => exact absurd rfl ((hidle hthreads).1 i o)
    | print i => exact absurd rfl ((hidle hthreads).2 i)
    | expire removed => exact absurd rfl (hexpire removed)
  | @accepted a job hactive hop hid hdigest hfin hstaged hjob hresult hthreads hcommand hloop hsink
      hstdin =>
    cases act with
    | take =>
      obtain ⟨hno, -⟩ := take_cases hw
      rw [hcommand] at hno
      cases hno
    | dispatch committed removed =>
      rw [Worker.act, hcommand] at hw
      cases hw
      obtain ⟨line, hvalid, hdone⟩ := finalize_answers (W := { W with command := none })
        number hactive hop hid hdigest hfin hstaged hjob hresult committed removed
      exact .answered hdone.active hdone.command (hdone.threads.trans hthreads) hdone.staged
        hdone.timer (hdone.stdin.trans hstdin) (.inl ⟨hdone.loopOut, hdone.sink.trans hsink⟩)
        hvalid
    | loopPrint =>
      rw [Worker.act, hloop] at hw
      cases hw
    | thread i o => exact absurd rfl ((hidle hthreads).1 i o)
    | print i => exact absurd rfl ((hidle hthreads).2 i)
    | expire removed => exact absurd rfl (hexpire removed)
  | @answered line hactive hcommand hthreads hstaged htimer hstdin hline hvalid =>
    cases act with
    | take =>
      obtain ⟨-, -, command, stdin, hin, -⟩ := take_cases hw
      rw [hstdin] at hin
      cases hin
    | dispatch committed removed =>
      rw [Worker.act, hcommand] at hw
      cases hw
    | loopPrint =>
      rcases hline with ⟨hloop, hsink⟩ | ⟨hloop, -⟩
      · rw [Worker.act, hloop] at hw
        cases hw
        refine .answered hactive hcommand hthreads hstaged htimer hstdin (.inr ⟨rfl, ?_⟩) hvalid
        simp [Worker.print, hsink]
      · rw [Worker.act, hloop] at hw
        cases hw
    | thread i o => exact absurd rfl ((hidle hthreads).1 i o)
    | print i => exact absurd rfl ((hidle hthreads).2 i)
    | expire removed => exact absurd rfl (hexpire removed)

end Closing

/-- A material command makes its way through the worker. -/
theorem serving_act {number : Nat} {command : MaterialCommand} {materialId : Uuid4}
    (hs : Serving W number command materialId) (hw : W.act act = some W') :
    Serving W' number command materialId := by
  cases hs with
  | sent hquiet hsink hstdin hnumber =>
    by_cases htake : act = .take
    · subst htake
      obtain ⟨-, -, c, stdin, hin, hcases⟩ := take_cases hw
      rw [hstdin] at hin
      cases hin
      obtain ⟨active, haccept, rfl⟩ | ⟨haccept, -⟩ := hcases
      · rw [hquiet.active] at haccept
        cases haccept
        exact .accepted rfl (by rw [hnumber]) hquiet.threads hquiet.loopOut hquiet.staged
          hquiet.timer hsink rfl
      · rw [hquiet.active] at haccept
        cases haccept
    · obtain ⟨hquiet', hsink', hstdin', hread'⟩ := quiet_act hquiet hw htake
      exact .sent hquiet' (hsink'.trans hsink) (hstdin'.trans hstdin) (hnumber.trans hread'.symm)
  | accepted hactive hcommand hthreads hloop hstaged htimer hsink hstdin =>
    cases act with
    | take =>
      obtain ⟨hno, -⟩ := take_cases hw
      rw [hcommand] at hno
      cases hno
    | dispatch committed removed =>
      rw [Worker.act, hcommand] at hw
      cases hw
      exact .working hactive rfl (by simp [Worker.dispatch, hthreads]) hloop hstaged htimer hsink
        hstdin
    | loopPrint =>
      rw [Worker.act, hloop] at hw
      cases hw
    | thread i o =>
      rw [Worker.act, hthreads] at hw
      cases hw
    | print i =>
      rw [Worker.act, hthreads] at hw
      cases hw
    | expire removed =>
      rw [Worker.act, Worker.expireSmartEdit, htimer] at hw
      cases hw
  | working hactive hcommand hthreads hloop hstaged htimer hsink hstdin =>
    cases act with
    | take =>
      obtain ⟨-, -, c, stdin, hin, -⟩ := take_cases hw
      rw [hstdin] at hin
      cases hin
    | dispatch committed removed =>
      rw [Worker.act, hcommand] at hw
      cases hw
    | loopPrint =>
      rw [Worker.act, hloop] at hw
      cases hw
    | thread i o =>
      simp only [Worker.act] at hw
      split at hw
      rotate_left
      · cases hw
      rename_i t hi
      obtain ⟨rfl, rfl⟩ := only_thread hthreads hi
      obtain ⟨⟨W₁, t₁⟩, hstep, rfl⟩ := Option.map_eq_some_iff.1 hw
      cases o with
      | answers answer =>
        by_cases hanswer : answer.command = command
        · subst hanswer
          simp only [Worker.threadStep, Worker.materialStep, hactive, if_true,
            materialAnswered_material, Worker.produce] at hstep
          cases hstep
          refine .answered rfl rfl hcommand hloop hstaged htimer hstdin (.inl ⟨?_, hsink⟩)
          rw [settle_threads (W := { W with active := none }) hthreads, if_neg (by rintro ⟨⟨⟩, -⟩)]
        · simp only [Worker.threadStep, Worker.materialStep, if_neg hanswer] at hstep
          cases hstep
      | _ => cases hstep
    | print i =>
      simp only [Worker.act] at hw
      split at hw
      rotate_left
      · cases hw
      rename_i t hi
      obtain ⟨rfl, rfl⟩ := only_thread hthreads hi
      cases hw
    | expire removed =>
      rw [Worker.act, Worker.expireSmartEdit, htimer] at hw
      cases hw
  | @answered answer hanswer hactive hcommand hloop hstaged htimer hstdin hline =>
    cases act with
    | take =>
      obtain ⟨-, -, c, stdin, hin, -⟩ := take_cases hw
      rw [hstdin] at hin
      cases hin
    | dispatch committed removed =>
      rw [Worker.act, hcommand] at hw
      cases hw
    | loopPrint =>
      rw [Worker.act, hloop] at hw
      cases hw
    | thread i o =>
      simp only [Worker.act] at hw
      split at hw
      rotate_left
      · cases hw
      rename_i t hi
      obtain ⟨⟨W₁, t₁⟩, hstep, rfl⟩ := Option.map_eq_some_iff.1 hw
      rcases hline with ⟨hone, -⟩ | ⟨hnone, -⟩
      · obtain ⟨rfl, rfl⟩ := only_thread hone hi
        cases threadStep_out hstep
      · rw [hnone] at hi
        cases hi
    | print i =>
      simp only [Worker.act] at hw
      split at hw
      rotate_left
      · cases hw
      rename_i t hi
      rcases hline with ⟨hone, hsink⟩ | ⟨hnone, -⟩
      · obtain ⟨rfl, rfl⟩ := only_thread hone hi
        cases hw
        refine .answered hanswer hactive hcommand hloop hstaged htimer hstdin (.inr ⟨?_, ?_⟩)
        · rw [settle_threads (W := W.print _ _) hone, if_pos ⟨rfl, rfl⟩]
        · simp [Worker.settle, Worker.print, hsink]
      · rw [hnone] at hi
        cases hi
    | expire removed =>
      rw [Worker.act, Worker.expireSmartEdit, htimer] at hw
      cases hw

end Worker

section Sync
variable {strict : Prop} {c c' : Channel}

theorem act_sync {act : Act} {child : Worker} (hs : Sync strict c)
    (hw : c.running.child.act act = some child) (hH : Move.undisturbed strict (.act act) c) :
    Sync strict { c with running := { c.running with child := child } } := by
  cases hs with
  | idle hwait hedit hsmart hquiet hsink hstdin =>
    have htake : act ≠ .take := by
      rintro rfl
      obtain ⟨-, -, command, stdin, hin, -⟩ := take_cases hw
      rw [hstdin] at hin
      cases hin
    obtain ⟨hquiet', hsink', hstdin', -⟩ := quiet_act hquiet hw htake
    exact .idle hwait hedit hsmart hquiet' (hsink'.trans hsink) (hstdin'.trans hstdin)
  | @late j rest hquiet hsink hstdin hedit hsmart hone =>
    have htake : act ≠ .take := by
      rintro rfl
      exact hH j rest hstdin hquiet.active
    obtain ⟨hquiet', hsink', hstdin', hread'⟩ := quiet_act hquiet hw htake
    refine .late hquiet' (hsink'.trans hsink) (hstdin'.trans hstdin) hedit (fun job hjob => ?_) hone
    obtain ⟨h1, h2, h3⟩ := hsmart job hjob
    exact ⟨h1, h2, hread' ▸ h3⟩
  | @job h₀ h lines hwait hhears hflight hheard hstand =>
    obtain ⟨more, h', hheard', hflight', hstand'⟩ := act_advances hstand hw
      (fun hact j rest hin => by subst hact; exact hH j rest hin)
      (fun removed hact => by subst hact; exact hH.2)
    have hnumber := (Heard.hearAll_same hheard).2.2.1
    refine .job hwait (by cases hhears with
      | editing hjob hno => exact .editing hjob hno
      | smartEdit hjob hno => exact .smartEdit hjob hno) ?_ (Heard.hearAll_append hheard hheard')
      hstand'
    rw [hflight', hflight, hnumber, numbered_append]
  | left hloose hwait hsmart hedit hlive hprepared hquiet hsink hstdin =>
    have htake : act ≠ .take := by
      rintro rfl
      obtain ⟨-, -, command, stdin, hin, -⟩ := take_cases hw
      rw [hstdin] at hin
      cases hin
    obtain ⟨hquiet', hsink', hstdin', -⟩ := quiet_act hquiet hw htake
    exact .left hloose hwait hsmart hedit hlive hprepared hquiet' (hsink'.trans hsink)
      (hstdin'.trans hstdin)
  | closing hwait hsmart hedit hlive hprepared hclosing =>
    refine .closing hwait hsmart hedit hlive hprepared (closing_act hclosing hw ?_)
    rintro removed rfl
    exact absurd (hwait.symm.trans hH.1) (fun h => nomatch h)
  | serving hwait hedit hsmart hserving =>
    exact .serving hwait hedit hsmart (serving_act hserving hw)

/-! ## The steps of the host -/

/-- The first line in flight is read. -/
theorem flight_pop {W : Worker} {number n : Nat} {line : Line} {sink : List (Nat × Line)}
    {lines : List Line} (hsink : W.sink = (n, line) :: sink)
    (hflight : flight W = numbered number lines) :
    ∃ rest, lines = line :: rest ∧ n = number ∧
      flight { W with sink := sink } = numbered number rest := by
  unfold flight at hflight
  rw [hsink, List.cons_append, List.cons_append] at hflight
  cases lines with
  | nil => cases hflight
  | cons first rest =>
    simp only [numbered, List.map_cons, List.cons.injEq, Prod.mk.injEq] at hflight
    obtain ⟨⟨rfl, rfl⟩, hrest⟩ := hflight
    exact ⟨rest, rfl, rfl, hrest⟩

theorem Hears.one {r : RunningVideoWorker} {h : Heard} (hh : Hears r h) :
    r.editingJob = none ∨ r.smartEditJob = none := by
  cases hh with
  | editing _ hno => exact .inr hno
  | smartEdit _ hno => exact .inl hno

/-- The host never has two jobs. -/
theorem Sync.one (hs : Sync strict c) :
    c.running.editingJob = none ∨ c.running.smartEditJob = none := by
  cases hs with
  | idle _ hedit => exact .inl hedit
  | late _ _ _ _ _ hone => exact hone
  | job _ hhears => exact hhears.one
  | left _ _ _ hedit => exact .inl hedit
  | closing _ _ hedit => exact .inl hedit
  | serving _ hedit => exact .inl hedit

theorem start_sync (hs : Sync strict c) (hwait : c.waiting = none)
    (hedit : c.running.editingJob = none) (hsmart : c.running.smartEditJob = none)
    {command : Command} {h : Heard} {r : RunningVideoWorker}
    (hchild : r.child = c.running.child.send command) (hhears : Hears r h)
    (haccepts : acceptCommand none command =
      some (.job { jobId := h.jobId, operation := h.operation }))
    (hnumber : h.number = c.running.nextNumber) (hlast : h.last = none)
    (hprepared : h.prepared = none) (hlive : h.terminal = false) : Sync strict ⟨r, none⟩ := by
  cases hs with
  | idle _ _ _ hquiet hsink hstdin =>
    have hflight : flight r.child = [] := by
      rw [hchild]
      simp [flight, Worker.send, hsink, hquiet.threads, hquiet.loopOut]
    refine .job (k := h) (h := h) (l := []) rfl hhears hflight rfl (.sent ?_ ?_ haccepts
      (l := []) (fun c hc => by cases hc) ?_ hlast hprepared hlive)
    · rw [hchild]
      exact ⟨hquiet.active, hquiet.command, hquiet.loopOut, hquiet.threads, hquiet.staged,
        hquiet.timer⟩
    · rw [hchild, Worker.send, hstdin]
      rfl
    · rw [hnumber, hchild, RunningVideoWorker.nextNumber, hstdin]
      rfl
  | @late j rest hquiet hsink hstdin =>
    refine .late (j := j) (l := rest ++ [command]) ?_ ?_ ?_ ?_ ?_ hhears.one
    · rw [hchild]
      exact ⟨hquiet.active, hquiet.command, hquiet.loopOut, hquiet.threads, hquiet.staged,
        hquiet.timer⟩
    · rw [hchild]
      exact hsink
    · rw [hchild, Worker.send, hstdin]
      rfl
    · intro job hjob
      cases hhears with
      | editing hjob' _ =>
        rw [hjob] at hjob'
        cases hjob'
        exact hlive
      | smartEdit _ hno =>
        rw [hjob] at hno
        cases hno
    · intro job hjob
      cases hhears with
      | editing _ hno =>
        rw [hjob] at hno
        cases hno
      | smartEdit hjob' _ =>
        rw [hjob] at hjob'
        cases hjob'
        refine ⟨hlive, hprepared, ?_⟩
        rw [show job.number = c.running.nextNumber from hnumber, hchild]
        exact Nat.le_add_right _ _
  | job _ hhears' =>
    cases hhears' with
    | editing hjob _ =>
      rw [hedit] at hjob
      cases hjob
    | smartEdit hjob _ =>
      rw [hsmart] at hjob
      cases hjob
  | left _ _ hjob =>
    rw [hsmart] at hjob
    cases hjob
  | closing hno =>
    rw [hwait] at hno
    cases hno
  | serving hno =>
    rw [hwait] at hno
    cases hno

theorem startLocalEditingJob_sync (hs : Sync strict c) (hwait : c.waiting = none)
    (jobId : Uuid4) (request : VideoWorkerLocalEditingJobRequest) (calls : Calls) :
    Sync strict ⟨(c.running.startLocalEditingJob jobId request calls).1, none⟩ := by
  have hsame : Sync strict ⟨c.running, none⟩ := by rwa [← hwait]
  unfold RunningVideoWorker.startLocalEditingJob
  split
  · exact hsame
  rename_i hcond
  simp only [not_or, ne_eq, Decidable.not_not, Bool.not_eq_false] at hcond
  split
  · exact hsame
  · exact hsame
  split
  · refine start_sync hs hwait hcond.2.1 hcond.2.2 rfl (.editing rfl hcond.2.2) ?_ rfl rfl rfl rfl
    simp [acceptCommand, acceptStart, request.distinct, request.positive, request.bounded,
      RunningLocalEditingJob.heard]
  · exact hsame

theorem startSmartEditJob_sync (hs : Sync strict c) (hwait : c.waiting = none) (jobId : Uuid4)
    (calls : Calls) : Sync strict ⟨(c.running.startSmartEditJob jobId calls).1, none⟩ := by
  have hsame : Sync strict ⟨c.running, none⟩ := by rwa [← hwait]
  unfold RunningVideoWorker.startSmartEditJob
  split
  · exact hsame
  rename_i hcond
  simp only [not_or, ne_eq, Decidable.not_not, Bool.not_eq_false] at hcond
  split
  · exact hsame
  · exact hsame
  split
  · exact hsame
  split
  · exact start_sync hs hwait hcond.2.2.1 hcond.2.2.2 rfl (.smartEdit rfl hcond.2.2.1) rfl rfl rfl
      rfl rfl
  · exact hsame

/-- Of a job of the host only `job`, `late`, `left` and `closing` speak. -/
theorem hears_of_editing {job : RunningLocalEditingJob} (hs : Sync strict c)
    (hjob : c.running.editingJob = some job)
    (hread : c.running.child.sink ≠ [] ∨ job.terminal = true) :
    c.running.smartEditJob = none ∧ ∃ h lines,
      flight c.running.child = numbered job.number lines ∧ job.heard.hearAll lines = some h ∧
        Stand c.running.child h := by
  cases hs with
  | idle _ hno =>
    rw [hjob] at hno
    cases hno
  | late _ hsink _ hedit =>
    rcases hread with hread | hread
    · exact absurd hsink hread
    · rw [hedit job hjob] at hread
      cases hread
  | job _ hhears hflight hheard hstand =>
    cases hhears with
    | editing hjob' hno =>
      rw [hjob] at hjob'
      cases hjob'
      exact ⟨hno, _, _, hflight, hheard, hstand⟩
    | smartEdit _ hno =>
      rw [hjob] at hno
      cases hno
  | left _ _ _ hno =>
    rw [hjob] at hno
    cases hno
  | closing _ _ hno =>
    rw [hjob] at hno
    cases hno
  | serving _ hno =>
    rw [hjob] at hno
    cases hno

theorem hears_of_smartEdit {job : RunningSmartEditJob} (hs : Sync strict c)
    (hwait : c.waiting = none) (hjob : c.running.smartEditJob = some job)
    (hread : c.running.child.sink ≠ [] ∨ job.terminal = true ∨
      job.preparedDigest ≠ none ∧ c.running.child.smartStaged ≠ none) :
    c.running.editingJob = none ∧ ∃ h lines,
      flight c.running.child = numbered job.number lines ∧ job.heard.hearAll lines = some h ∧
        Stand c.running.child h := by
  cases hs with
  | idle _ _ hno =>
    rw [hjob] at hno
    cases hno
  | late _ hsink _ _ hsmart =>
    obtain ⟨hlive, hprepared, -⟩ := hsmart job hjob
    rcases hread with hread | hread | hread
    · exact absurd hsink hread
    · rw [hlive] at hread
      cases hread
    · exact absurd hprepared hread.1
  | job _ hhears hflight hheard hstand =>
    cases hhears with
    | editing _ hno =>
      rw [hjob] at hno
      cases hno
    | smartEdit hjob' hno =>
      rw [hjob] at hjob'
      cases hjob'
      exact ⟨hno, _, _, hflight, hheard, hstand⟩
  | left _ _ hjob' _ hlive _ hquiet hsink =>
    rw [hjob] at hjob'
    cases hjob'
    rcases hread with hread | hread | hread
    · exact absurd hsink hread
    · rw [hlive] at hread
      cases hread
    · exact absurd hquiet.staged hread.2
  | closing hno =>
    rw [hwait] at hno
    cases hno
  | serving _ _ hno =>
    rw [hjob] at hno
    cases hno

theorem filter_eq_some {α : Type} {o : Option α} {p : α → Bool} {a : α}
    (h : o.filter p = some a) : o = some a ∧ p a = true := by
  cases o with
  | none => cases h
  | some b =>
    rw [Option.filter_some] at h
    split at h
    · cases h
      exact ⟨rfl, ‹_›⟩
    · cases h

/-- A poll takes the first line, and it is an event of the job. -/
theorem tryLocalEditingEvent_sync (hs : Sync strict c) (hk : Kept strict c.running)
    (hwait : c.waiting = none) (jobId : Uuid4) :
    Sync strict ⟨(c.running.tryLocalEditingEvent jobId).1, none⟩ ∧
      Kept strict (c.running.tryLocalEditingEvent jobId).1 := by
  have hsame : Sync strict ⟨c.running, none⟩ ∧ Kept strict c.running := ⟨by rwa [← hwait], hk⟩
  unfold RunningVideoWorker.tryLocalEditingEvent
  split
  · exact hsame
  rename_i state hfilter
  obtain ⟨hjob, -⟩ := filter_eq_some hfilter
  split
  · exact hsame
  rename_i number line sink hsink
  obtain ⟨hno, h, lines, hflight, hheard, hstand⟩ := hears_of_editing hs hjob
    (.inl (by rw [hsink]; exact List.cons_ne_nil _ _))
  obtain ⟨rest, rfl, rfl, hflight'⟩ := flight_pop hsink hflight
  obtain ⟨h₁, hfirst, hrest⟩ := Option.bind_eq_some_iff.1 (Heard.hearAll_cons ▸ hheard)
  have hlive : state.terminal = false := (Heard.hear_cases hfirst).1
  have hparse := parseLocalEditingEvent_heard state line hlive
  rw [hfirst] at hparse
  obtain ⟨⟨state', event⟩, hevent, rfl⟩ := Option.map_eq_some_iff.1 hparse
  have hnumber : state'.number = state.number := (Heard.hear_same hfirst).2.2.1
  rw [hlive, if_neg (by simp), hevent]
  refine ⟨.job rfl (.editing rfl hno) (l := rest) ?_ hrest (hstand.receive sink), ?_⟩
  · show _ = numbered state'.number rest
    rw [hnumber]
    exact hflight'
  · intro reading hmem
    rcases List.mem_append.1 hmem with hmem | hmem
    · exact hk reading hmem
    · rw [List.mem_singleton.1 hmem]
      exact ⟨hnumber.symm, fun _ => rfl⟩

/-- Only the announcement of a result depends on whether the result is accepted. -/
theorem parseSmartEditEvent_unloaded (state : RunningSmartEditJob) (loaded : Bool) {line : Line}
    (hline : ∀ j d, line ≠ .smartEditPrepared j d) :
    parseSmartEditEvent state loaded line = parseSmartEditEvent state true line := by
  cases line with
  | smartEditPrepared j d => exact absurd rfl (hline j d)
  | _ => rfl

/-- A result that is not accepted is forgotten, and the smart edit can only fail. -/
theorem forget_prepared {W : Worker} {h₀ h₁ h : Heard} {jobId : Uuid4} {digest : Digest}
    {rest : List Line} (hfirst : h₀.hear (.smartEditPrepared jobId digest) = some h₁)
    (hrest : h₁.hearAll rest = some h) (hstand : Stand W h) :
    ∃ h', h₀.hearAll rest = some h' ∧ Stand W h' := by
  obtain ⟨hop, hlive, hnone, rfl⟩ := Heard.hear_announced hfirst
  have hforgets := hstand.forget
  rcases Heard.hearAll_prepared (h := { h₀ with prepared := some digest }) hop (fun h => nomatch h)
    hrest with ⟨rfl, rfl⟩ | ⟨failureCode, rfl, rfl⟩
  · refine ⟨h₀, rfl, ?_⟩
    rwa [show ({ h₀ with prepared := none } : Heard) = h₀ by rw [← hnone]] at hforgets
  · refine ⟨{ h₀ with terminal := true }, hearAll_single ?_, ?_⟩
    · simp [Heard.hear, Heard.ended, hlive, hop]
    · rwa [show ({ h₀ with terminal := true, prepared := none } : Heard) =
        { h₀ with terminal := true } by rw [← hnone]] at hforgets

/-- So does a poll of a smart edit, unless its result is not accepted. -/
theorem trySmartEditEvent_sync (hs : Sync strict c) (hk : Kept strict c.running)
    (hwait : c.waiting = none) (jobId : Uuid4) {calls : Calls}
    (hloaded : strict → calls.loaded = true) :
    Sync strict ⟨(c.running.trySmartEditEvent jobId calls).1, none⟩ ∧
      Kept strict (c.running.trySmartEditEvent jobId calls).1 := by
  have hsame : Sync strict ⟨c.running, none⟩ ∧ Kept strict c.running := ⟨by rwa [← hwait], hk⟩
  unfold RunningVideoWorker.trySmartEditEvent
  split
  · exact hsame
  rename_i state hfilter
  obtain ⟨hjob, hcond⟩ := filter_eq_some hfilter
  split
  · exact hsame
  rename_i number line sink hsink
  obtain ⟨hno, h, lines, hflight, hheard, hstand⟩ := hears_of_smartEdit hs hwait hjob
    (.inl (by rw [hsink]; exact List.cons_ne_nil _ _))
  obtain ⟨rest, rfl, rfl, hflight'⟩ := flight_pop hsink hflight
  obtain ⟨h₁, hfirst, hrest⟩ := Option.bind_eq_some_iff.1 (Heard.hearAll_cons ▸ hheard)
  have hlive : state.terminal = false := (Heard.hear_cases hfirst).1
  have hparse := parseSmartEditEvent_heard state line hlive
  rw [hfirst] at hparse
  obtain ⟨⟨state', event⟩, hevent, rfl⟩ := Option.map_eq_some_iff.1 hparse
  have hnumber : state'.number = state.number := (Heard.hear_same hfirst).2.2.1
  cases hcalls : calls.loaded with
  | true =>
    rw [hevent]
    refine ⟨.job rfl (.smartEdit rfl hno) (l := rest) ?_ hrest (hstand.receive sink), ?_⟩
    · show _ = numbered state'.number rest
      rw [hnumber]
      exact hflight'
    · intro reading hmem
      rcases List.mem_append.1 hmem with hmem | hmem
      · exact hk reading hmem
      · rw [List.mem_singleton.1 hmem]
        exact ⟨hnumber.symm, fun _ => rfl⟩
  | false =>
    have hloose : ¬strict := by
      intro h
      rw [hloaded h] at hcalls
      cases hcalls
    by_cases hline : ∃ j d, line = .smartEditPrepared j d
    · obtain ⟨j, d, rfl⟩ := hline
      rw [show parseSmartEditEvent state false (.smartEditPrepared j d) = none by
        simp [parseSmartEditEvent]]
      obtain ⟨h', hrest', hstand'⟩ := forget_prepared hfirst hrest hstand
      refine ⟨.job rfl (.smartEdit hjob hno) hflight' hrest' (hstand'.receive sink), ?_⟩
      intro reading hmem
      rcases List.mem_append.1 hmem with hmem | hmem
      · exact hk reading hmem
      · rw [List.mem_singleton.1 hmem]
        exact ⟨rfl, fun h => absurd h hloose⟩
    · rw [parseSmartEditEvent_unloaded state false (fun j d h => hline ⟨j, d, h⟩), hevent]
      refine ⟨.job rfl (.smartEdit rfl hno) (l := rest) ?_ hrest (hstand.receive sink), ?_⟩
      · show _ = numbered state'.number rest
        rw [hnumber]
        exact hflight'
      · intro reading hmem
        rcases List.mem_append.1 hmem with hmem | hmem
        · exact hk reading hmem
        · rw [List.mem_singleton.1 hmem]
          exact ⟨hnumber.symm, fun _ => rfl⟩

theorem hears_unique {r : RunningVideoWorker} {h₀ h₁ : Heard} (h : Hears r h₀)
    (h' : Hears r h₁) : h₁ = h₀ := by
  cases h with
  | editing hjob hno =>
    cases h' with
    | editing hjob' _ =>
      rw [hjob] at hjob'
      cases hjob'
      rfl
    | smartEdit hjob' _ =>
      rw [hno] at hjob'
      cases hjob'
  | smartEdit hjob hno =>
    cases h' with
    | editing hjob' _ =>
      rw [hno] at hjob'
      cases hjob'
    | smartEdit hjob' _ =>
      rw [hjob] at hjob'
      cases hjob'
      rfl

/-- A cancellation is sent after the commands that are on their way. -/
theorem cancel_sync (hs : Sync strict c) (hwait : c.waiting = none) {r : RunningVideoWorker}
    {j : Uuid4} {h₀ h₁ : Heard} (hchild : r.child = c.running.child.send (.cancel j))
    (hhears : Hears c.running h₀) (hhears' : Hears r h₁)
    (hasked : h₁ = { h₀ with cancelling := true }) (hlive : h₀.terminal = false)
    (hprepared : h₀.prepared = none) : Sync strict ⟨r, none⟩ := by
  cases hs with
  | idle _ hedit hsmart =>
    cases hhears with
    | editing hjob =>
      rw [hedit] at hjob
      cases hjob
    | smartEdit hjob =>
      rw [hsmart] at hjob
      cases hjob
  | @late k rest hquiet hsink hstdin hedit hsmart =>
    have hlive' : h₁.terminal = false := by rw [hasked, ← hlive]
    have hprepared' : h₁.prepared = none := by rw [hasked, ← hprepared]
    refine .late (j := k) (l := rest ++ [.cancel j]) ?_ ?_ ?_ (fun job hjob => ?_)
      (fun job hjob => ?_) hhears'.one
    · rw [hchild]
      exact ⟨hquiet.active, hquiet.command, hquiet.loopOut, hquiet.threads, hquiet.staged,
        hquiet.timer⟩
    · rw [hchild]
      exact hsink
    · rw [hchild, Worker.send, hstdin]
      rfl
    · cases hhears' with
      | editing hjob' _ =>
        cases hjob.symm.trans hjob'
        exact hlive'
      | smartEdit _ hno => cases hjob.symm.trans hno
    · cases hhears' with
      | editing _ hno => cases hjob.symm.trans hno
      | smartEdit hjob' _ =>
        cases hjob.symm.trans hjob'
        refine ⟨hlive', hprepared', ?_⟩
        rw [show job.number = h₀.number from congrArg Heard.number hasked, hchild]
        cases hhears with
        | editing =>
          have hop := congrArg Heard.operation hasked
          cases hop
        | smartEdit hjob₀ _ => exact (hsmart _ hjob₀).2.2
  | job _ hhears₁ hflight hheard hstand =>
    cases hears_unique hhears hhears₁
    refine .job rfl hhears' ?_ (hasked ▸ Heard.hearAll_cancel hheard) (hchild ▸ hstand.cancel j)
    rw [hchild, hasked]
    exact hflight
  | left _ _ hjob hno _ hno' =>
    cases hhears with
    | editing hjob' _ =>
      rw [hno] at hjob'
      cases hjob'
    | smartEdit hjob' _ =>
      rw [hjob] at hjob'
      cases hjob'
      exact absurd hprepared hno'
  | closing hno =>
    rw [hwait] at hno
    cases hno
  | serving hno =>
    rw [hwait] at hno
    cases hno

theorem requestLocalEditingCancel_sync (hs : Sync strict c) (hwait : c.waiting = none)
    (jobId : Uuid4) (calls : Calls) :
    Sync strict ⟨(c.running.requestLocalEditingCancel jobId calls).1, none⟩ := by
  have hsame : Sync strict ⟨c.running, none⟩ := by rwa [← hwait]
  unfold RunningVideoWorker.requestLocalEditingCancel
  split
  · exact hsame
  rename_i state hfilter
  obtain ⟨hjob, hcond⟩ := filter_eq_some hfilter
  simp only [Bool.decide_and, Bool.and_eq_true, decide_eq_true_eq] at hcond
  split
  · exact hsame
  split
  · have hno : c.running.smartEditJob = none := by
      rcases hs.one with hno | hno
      · rw [hjob] at hno
        cases hno
      · exact hno
    exact cancel_sync hs hwait rfl (.editing hjob hno) (.editing rfl hno) rfl hcond.2 rfl
  · exact hsame

theorem requestSmartEditCancel_sync (hs : Sync strict c) (hwait : c.waiting = none)
    (jobId : Uuid4) (calls : Calls) :
    Sync strict ⟨(c.running.requestSmartEditCancel jobId calls).1, none⟩ := by
  have hsame : Sync strict ⟨c.running, none⟩ := by rwa [← hwait]
  unfold RunningVideoWorker.requestSmartEditCancel
  split
  · exact hsame
  rename_i state hfilter
  obtain ⟨hjob, hcond⟩ := filter_eq_some hfilter
  simp only [Bool.decide_and, Bool.and_eq_true, decide_eq_true_eq] at hcond
  split
  · have hno : c.running.editingJob = none := by
      rcases hs.one with hno | hno
      · exact hno
      · rw [hjob] at hno
        cases hno
    exact cancel_sync hs hwait rfl (.smartEdit hjob hno) (.smartEdit rfl hno) rfl hcond.2.1
      hcond.2.2.1
  · exact hsame

/-- A job whose terminal event was read leaves nothing behind, or a cancellation that comes
too late. -/
theorem finish_sync {r : RunningVideoWorker} {k h : Heard} {lines : List Line}
    (hchild : r.child = c.running.child) (hedit : r.editingJob = none)
    (hsmart : r.smartEditJob = none) (hflight : flight c.running.child = numbered k.number lines)
    (hheard : k.hearAll lines = some h) (hstand : Stand c.running.child h)
    (hterminal : k.terminal = true) : Sync strict ⟨r, none⟩ := by
  obtain ⟨rfl, rfl⟩ := Heard.hearAll_terminal hterminal hheard
  obtain ⟨hquiet, hsink, hcancels⟩ := hstand.finished hterminal hflight
  cases hstdin : c.running.child.stdin with
  | nil =>
    refine .idle rfl hedit hsmart ?_ ?_ ?_
    · rwa [hchild]
    · rwa [hchild]
    · rwa [hchild]
  | cons command rest =>
    obtain ⟨j, rfl⟩ := hcancels command (by rw [hstdin]; exact List.mem_cons_self)
    refine .late (j := j) (l := rest) ?_ ?_ ?_ (fun job hjob => ?_) (fun job hjob => ?_)
      (.inl hedit)
    · rwa [hchild]
    · rwa [hchild]
    · rwa [hchild]
    · rw [hedit] at hjob
      cases hjob
    · rw [hsmart] at hjob
      cases hjob

theorem finishLocalEditingJob_sync (hs : Sync strict c) (hwait : c.waiting = none)
    (jobId : Uuid4) : Sync strict ⟨(c.running.finishLocalEditingJob jobId).1, none⟩ := by
  have hsame : Sync strict ⟨c.running, none⟩ := by rwa [← hwait]
  unfold RunningVideoWorker.finishLocalEditingJob
  split
  · exact hsame
  rename_i state hfilter
  obtain ⟨hjob, hcond⟩ := filter_eq_some hfilter
  simp only [Bool.decide_and, Bool.and_eq_true, decide_eq_true_eq] at hcond
  obtain ⟨hno, h, lines, hflight, hheard, hstand⟩ := hears_of_editing hs hjob (.inr hcond.2)
  exact finish_sync (k := state.heard) rfl rfl hno hflight hheard hstand hcond.2

theorem finishSmartEditJob_sync (hs : Sync strict c) (hwait : c.waiting = none)
    (jobId : Uuid4) (calls : Calls) :
    Sync strict ⟨(c.running.finishSmartEditJob jobId calls).1, none⟩ := by
  have hsame : Sync strict ⟨c.running, none⟩ := by rwa [← hwait]
  unfold RunningVideoWorker.finishSmartEditJob
  split
  · exact hsame
  rename_i state hfilter
  obtain ⟨hjob, hcond⟩ := filter_eq_some hfilter
  simp only [Bool.decide_and, Bool.and_eq_true, decide_eq_true_eq] at hcond
  split
  · obtain ⟨hno, h, lines, hflight, hheard, hstand⟩ := hears_of_smartEdit hs hwait hjob
      (.inr (.inl hcond.2))
    exact finish_sync (k := state.heard) rfl hno rfl hflight hheard hstand hcond.2
  · exact hsame

/-- A commit or an abort is requested when all of the job has been read. -/
theorem finalizeSmartEditJob_sync (hs : Sync strict c) (hwait : c.waiting = none)
    (jobId : Uuid4) (action : Action) (calls : Calls)
    (hH : Move.undisturbed strict (.finalizeSmartEditJob jobId action calls) c) :
    Sync strict (Channel.awaits (c.running.finalizeSmartEditJob jobId action calls)) := by
  have hsame (e : VideoWorkerErrorCode) : Sync strict (Channel.awaits (c.running, .error e)) := by
    show Sync strict ⟨c.running, none⟩
    rwa [← hwait]
  unfold RunningVideoWorker.finalizeSmartEditJob
  split
  · exact hsame _
  rename_i state hfilter
  obtain ⟨hjob, hcond⟩ := filter_eq_some hfilter
  simp only [Bool.decide_and, Bool.and_eq_true, decide_eq_true_eq, ne_eq] at hcond
  obtain ⟨hid, hlive, hprepared, -⟩ := hcond
  split
  · exact hsame _
  rename_i digest hdigest
  split
  rotate_left
  · exact hsame _
  have hstaged := hH state hjob hlive hprepared
  obtain ⟨hno, h, lines, hflight, hheard, hstand⟩ := hears_of_smartEdit hs hwait hjob
    (.inr (.inr ⟨hprepared, hstaged⟩))
  have hthere : h.terminal = false := by
    cases hover : h.terminal with
    | false => rfl
    | true =>
      exfalso
      cases hstand with
      | sent hquiet => exact hstaged hquiet.staged
      | starting _ _ _ _ _ hnone => exact hstaged hnone
      | rendering _ _ hagrees =>
        rw [hagrees.live] at hover
        cases hover
      | generating _ _ hagrees =>
        rw [hagrees.live] at hover
        cases hover
      | awaiting _ _ hagrees =>
        rw [hagrees.live] at hover
        cases hover
      | ended _ _ _ _ hnone => exact hstaged hnone
  rcases Heard.hearAll_prepared (h := state.heard) rfl hprepared hheard with ⟨rfl, rfl⟩ |
    ⟨failureCode, -, rfl⟩
  rotate_left
  · cases hthere
  cases hstand with
  | sent hquiet => exact absurd hquiet.staged hstaged
  | starting _ _ _ _ _ hnone => exact absurd hnone hstaged
  | rendering hop => cases hop
  | generating _ _ _ _ _ _ _ _ _ _ hnone => exact absurd hnone hprepared
  | ended _ _ _ _ hnone => exact absurd hnone hstaged
  | @awaiting a job hop hactive hagrees hthreads hawaiting hresult hcancelling hfin hstaged' hown
      hnumber htimer hcommand hloop hcancels hprepared' =>
    have hnone : c.running.child.threads = [] := by
      rcases hthreads with ⟨line, hone⟩ | hnone
      · rw [flight_one hone hloop] at hflight
        simp [numbered] at hflight
      · exact hnone
    rw [flight_none hnone hloop] at hflight
    have hsame' : job.resultDigest = digest := hprepared' digest hdigest
    refine .closing rfl hjob hno hlive hdigest (.sent (l := c.running.child.stdin) hactive
      (hagrees.operation.trans hop) (hagrees.jobId.trans hid) hawaiting (hsame' ▸ hresult) hcancelling hfin hstaged'
      (hown.trans hid) hsame' hnone hcommand hloop hflight rfl (fun c hc => (hcancels c hc).1) rfl)

theorem requestLocalMaterial_sync (hs : Sync strict c) (hwait : c.waiting = none)
    (command : MaterialCommand) (materialId : Uuid4) (calls : Calls) :
    Sync strict (Channel.awaits (c.running.requestLocalMaterial command materialId calls)) := by
  have hsame (e : VideoWorkerErrorCode) : Sync strict (Channel.awaits (c.running, .error e)) := by
    show Sync strict ⟨c.running, none⟩
    rwa [← hwait]
  unfold RunningVideoWorker.requestLocalMaterial
  split
  · exact hsame _
  rename_i hcond
  simp only [not_or, ne_eq, Decidable.not_not, Bool.not_eq_false] at hcond
  split
  · exact hsame _
  · exact hsame _
  split
  rotate_left
  · exact hsame _
  have hquiet' (hquiet : Quiet c.running.child) :
      Quiet (c.running.child.send (.material command materialId)) :=
    ⟨hquiet.active, hquiet.command, hquiet.loopOut, hquiet.threads, hquiet.staged, hquiet.timer⟩
  cases hs with
  | idle _ hedit hsmart hquiet hsink hstdin =>
    refine .serving rfl hedit hsmart (.sent (hquiet' hquiet) hsink ?_ ?_)
    · show c.running.child.stdin ++ _ = _
      rw [hstdin]
      rfl
    · show c.running.nextNumber = c.running.child.read
      rw [RunningVideoWorker.nextNumber, hstdin]
      rfl
  | @late j rest hquiet hsink hstdin hedit hsmart hone =>
    refine .late (j := j) (l := rest ++ [.material command materialId]) (hquiet' hquiet) hsink ?_
      hedit hsmart hone
    show c.running.child.stdin ++ _ = _
    rw [hstdin]
    rfl
  | job _ hhears =>
    cases hhears with
    | editing hjob _ => cases hcond.2.1.symm.trans hjob
    | smartEdit hjob _ => cases hcond.2.2.symm.trans hjob
  | left _ _ hjob => cases hcond.2.2.symm.trans hjob
  | closing hno => cases hwait.symm.trans hno
  | serving hno => cases hwait.symm.trans hno

/-- What is received is the answer that was waited for. -/
theorem answered_sync (hs : Sync strict c) (hk : Kept strict c.running) {pending : Pending}
    {answer : Nat × Line} {sink : List (Nat × Line)} {calls : Calls}
    (hwait : c.waiting = some pending) (hsink : c.running.child.sink = answer :: sink)
    (hremoved : strict → calls.removed = true) :
    Sync strict ⟨c.running.answered pending answer sink calls, none⟩ ∧
      Kept strict (c.running.answered pending answer sink calls) := by
  cases hs with
  | idle hno => cases hwait.symm.trans hno
  | late _ hno => cases hsink.symm.trans hno
  | job hno => cases hwait.symm.trans hno
  | left _ hno => cases hwait.symm.trans hno
  | @closing number action jobId digest job hwait' hsmart hedit hlive hprepared hclosing =>
    cases hwait.symm.trans hwait'
    cases hclosing with
    | sent _ _ _ _ _ _ _ _ _ _ _ _ _ hno => cases hsink.symm.trans hno
    | accepted _ _ _ _ _ _ _ _ _ _ _ hno => cases hsink.symm.trans hno
    | @answered line hactive hcommand hthreads hstaged htimer hstdin hline hvalid =>
      rcases hline with ⟨-, hno⟩ | ⟨hloop, hline⟩
      · cases hsink.symm.trans hno
      cases hsink.symm.trans hline
      obtain ⟨ok, hok⟩ := Option.isSome_iff_exists.1 hvalid
      have hkept (r : RunningVideoWorker) (hr : r.readings =
          c.running.readings ++ [⟨number, number, line, true⟩]) : Kept strict r := by
        intro reading hmem
        rw [hr] at hmem
        rcases List.mem_append.1 hmem with hmem | hmem
        · exact hk reading hmem
        · rw [List.mem_singleton.1 hmem]
          exact ⟨rfl, fun _ => rfl⟩
      have hquiet : Quiet { c.running.child with sink := [] } :=
        ⟨hactive, (fun p hp => by cases hcommand.symm.trans hp), hloop, hthreads, hstaged, htimer⟩
      cases ok with
      | false =>
        rw [RunningVideoWorker.answered_rejected hok]
        refine ⟨?_, hkept _ rfl⟩
        refine .job (k := ({ job with terminal := true } : RunningSmartEditJob).heard) (l := [])
          rfl (.smartEdit (by rw [hsmart]; rfl) hedit) ?_ rfl (.ended hactive ?_ (.inr hthreads) hloop
            hstaged htimer (fun _ hc => ?_) rfl)
        · rw [numbered_nil]
          exact flight_none (W := { c.running.child with sink := [] }) hthreads hloop
        · intro p hp
          cases hcommand.symm.trans hp
        · have hmem : _ ∈ c.running.child.stdin := hc
          rw [hstdin] at hmem
          cases hmem
      | true =>
        rw [RunningVideoWorker.answered_accepted hok]
        cases hcalls : calls.removed with
        | true => exact ⟨.idle rfl hedit rfl hquiet rfl hstdin, hkept _ rfl⟩
        | false =>
          refine ⟨.left (fun h => ?_) rfl hsmart hedit hlive ?_ hquiet rfl hstdin, hkept _ rfl⟩
          · rw [hremoved h] at hcalls
            cases hcalls
          · rw [hprepared]
            exact fun h => nomatch h
  | @serving number command materialId hwait' hedit hsmart hserving =>
    cases hwait.symm.trans hwait'
    cases hserving with
    | sent _ hno => cases hsink.symm.trans hno
    | accepted _ _ _ _ _ _ hno => cases hsink.symm.trans hno
    | working _ _ _ _ _ _ hno => cases hsink.symm.trans hno
    | @answered answer hanswer hactive hcommand hloop hstaged htimer hstdin hline =>
      rcases hline with ⟨-, hno⟩ | ⟨hthreads, hline⟩
      · cases hsink.symm.trans hno
      cases hsink.symm.trans hline
      have hok : materialAnswer command materialId (.material materialId answer) = some answer := by
        simp [materialAnswer, hanswer]
      rw [RunningVideoWorker.answered_material hok]
      refine ⟨.idle rfl hedit hsmart ⟨hactive, (fun p hp => by cases hcommand.symm.trans hp),
        hloop, hthreads, hstaged, htimer⟩ rfl hstdin, fun reading hmem => ?_⟩
      rcases List.mem_append.1 hmem with hmem | hmem
      · exact hk reading hmem
      · rw [List.mem_singleton.1 hmem]
        exact ⟨rfl, fun _ => rfl⟩

/-! ## Runs -/

/-- A call that reads nothing keeps what was read. -/
theorem call_kept {move : Move} (hk : Kept strict c.running)
    (hread : (Channel.call c.running move).running.readings = c.running.readings) :
    Kept strict (Channel.call c.running move).running := by
  unfold Kept
  rw [hread]
  exact hk

theorem call_sync (hs : Sync strict c) (hk : Kept strict c.running) (hwait : c.waiting = none)
    {move : Move} (hH : move.undisturbed strict c) :
    Sync strict (Channel.call c.running move) ∧
      Kept strict (Channel.call c.running move).running := by
  have hsame : Sync strict ⟨c.running, none⟩ := by rwa [← hwait]
  cases move with
  | act act => exact ⟨hsame, hk⟩
  | receive calls => exact ⟨hsame, hk⟩
  | timeOut => exact ⟨hsame, hk⟩
  | tryLocalEditingEvent jobId => exact tryLocalEditingEvent_sync hs hk hwait jobId
  | trySmartEditEvent jobId calls => exact trySmartEditEvent_sync hs hk hwait jobId hH
  | startLocalEditingJob jobId request calls =>
    refine ⟨startLocalEditingJob_sync hs hwait jobId request calls, call_kept hk ?_⟩
    show (c.running.startLocalEditingJob jobId request calls).1.readings = _
    unfold RunningVideoWorker.startLocalEditingJob
    split
    · rfl
    split
    · rfl
    · rfl
    split <;> rfl
  | requestLocalEditingCancel jobId calls =>
    refine ⟨requestLocalEditingCancel_sync hs hwait jobId calls, call_kept hk ?_⟩
    show (c.running.requestLocalEditingCancel jobId calls).1.readings = _
    unfold RunningVideoWorker.requestLocalEditingCancel
    split
    · rfl
    split
    · rfl
    split <;> rfl
  | finishLocalEditingJob jobId =>
    refine ⟨finishLocalEditingJob_sync hs hwait jobId, call_kept hk ?_⟩
    show (c.running.finishLocalEditingJob jobId).1.readings = _
    unfold RunningVideoWorker.finishLocalEditingJob
    split <;> rfl
  | startSmartEditJob jobId calls =>
    refine ⟨startSmartEditJob_sync hs hwait jobId calls, call_kept hk ?_⟩
    show (c.running.startSmartEditJob jobId calls).1.readings = _
    unfold RunningVideoWorker.startSmartEditJob
    split
    · rfl
    split
    · rfl
    · rfl
    split
    · rfl
    split <;> rfl
  | requestSmartEditCancel jobId calls =>
    refine ⟨requestSmartEditCancel_sync hs hwait jobId calls, call_kept hk ?_⟩
    show (c.running.requestSmartEditCancel jobId calls).1.readings = _
    unfold RunningVideoWorker.requestSmartEditCancel
    split
    · rfl
    split <;> rfl
  | finalizeSmartEditJob jobId action calls =>
    refine ⟨finalizeSmartEditJob_sync hs hwait jobId action calls hH, call_kept hk ?_⟩
    show (c.running.finalizeSmartEditJob jobId action calls).1.readings = _
    unfold RunningVideoWorker.finalizeSmartEditJob
    split
    · rfl
    split
    · rfl
    split <;> rfl
  | finishSmartEditJob jobId calls =>
    refine ⟨finishSmartEditJob_sync hs hwait jobId calls, call_kept hk ?_⟩
    show (c.running.finishSmartEditJob jobId calls).1.readings = _
    unfold RunningVideoWorker.finishSmartEditJob
    split
    · rfl
    split <;> rfl
  | requestLocalMaterial command materialId calls =>
    refine ⟨requestLocalMaterial_sync hs hwait command materialId calls, call_kept hk ?_⟩
    show (c.running.requestLocalMaterial command materialId calls).1.readings = _
    unfold RunningVideoWorker.requestLocalMaterial
    split
    · rfl
    split
    · rfl
    · rfl
    split <;> rfl

theorem step_call {move : Move} (h : c.step move = some c') :
    (∃ act child, move = .act act ∧ c.running.child.act act = some child ∧
        c' = { c with running := { c.running with child := child } }) ∨
      (∃ calls pending answer sink, move = .receive calls ∧ c.waiting = some pending ∧
        c.running.child.sink = answer :: sink ∧
        c' = ⟨c.running.answered pending answer sink calls, none⟩) ∨
      move = .timeOut ∨ c.waiting = none ∧ c' = Channel.call c.running move := by
  have hother (h : (if c.waiting = none then some (Channel.call c.running move) else none) =
      some c') : c.waiting = none ∧ c' = Channel.call c.running move := by
    split at h
    · exact ⟨‹_›, (Option.some.inj h).symm⟩
    · cases h
  cases move with
  | act act =>
    obtain ⟨child, hchild, rfl⟩ := Option.map_eq_some_iff.1 h
    exact .inl ⟨act, child, rfl, hchild, rfl⟩
  | receive calls =>
    simp only [Channel.step] at h
    split at h
    · rename_i pending answer sink hwait hsink
      exact .inr (.inl ⟨calls, pending, answer, sink, rfl, hwait, hsink, (Option.some.inj h).symm⟩)
    · cases h
  | timeOut => exact .inr (.inr (.inl rfl))
  | _ => exact .inr (.inr (.inr (hother h)))

/-- The two sides stay in step. -/
theorem sync_inductive : (Channel.system.restrict (Move.undisturbed strict)).Inductive
    fun c => Sync strict c ∧ Kept strict c.running where
  init c h := by
    obtain ⟨⟨hchild, hedit, hsmart, hreadings⟩, hwait⟩ := h
    refine ⟨.idle hwait hedit hsmart ?_ ?_ ?_, ?_⟩
    · rw [hchild]
      exact ⟨rfl, (fun p hp => nomatch hp), rfl, rfl, rfl, rfl⟩
    · rw [hchild]
    · rw [hchild]
    · intro reading hmem
      rw [hreadings] at hmem
      cases hmem
  step c move c' hc hs := by
    obtain ⟨hstep, hH⟩ := hs
    obtain ⟨act, child, rfl, hchild, rfl⟩ | ⟨calls, pending, answer, sink, rfl, hwait, hsink, rfl⟩ |
      rfl | ⟨hwait, rfl⟩ := step_call hstep
    · exact ⟨act_sync hc.1 hchild hH, hc.2⟩
    · exact answered_sync hc.1 hc.2 hwait hsink hH
    · exact absurd hH id
    · exact call_sync hc.1 hc.2 hwait hH

end Sync

end AutomationTool.Desktop
