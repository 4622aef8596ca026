import AutomationTool.Desktop.WorkerChannel

/-!
# A cancellation that comes too late is answered with a line nobody reads

Behaviour (worker_main.py:648-668): a cancellation that the
protocol rejects is parsed once more as the cancellation of a session without an operation,
and answered with `worker.cancelled`. When the job ends while its cancellation is on its way,
that is what becomes of it. The host (local_video_orchestrator.rs:2024-2057) does not wait for
an answer to its cancellation, reads the terminal event, finishes the job, and the line
stays in the channel: the next operation takes it for its own answer.

Evidence: `request_local_editing_cancel` is documented with "completion can win the race"; the
host matches an answer to its request by position alone, and rejects what does not match.

A late answer of a request that timed out, and a commit timer that fires while a commit or
an abort is on its way, do the same.

Counterexample: a job fails, the host requests its cancellation before it has read that.

`undisturbed_inStep`: the two sides stay in step otherwise.
-/
namespace AutomationTool.Bugs.CrossedCancel

open Desktop Executor.EditingWorker

/-- What the host read for a command belongs to that command, and no line is left when no
operation is outstanding. -/
structure InStep (c : Channel) : Prop where
  answers : ∀ reading ∈ c.running.readings, reading.number = reading.wanted
  nothingLeft : c.waiting = none → c.running.editingJob = none → c.running.smartEditJob = none →
    c.running.child.sink = []

theorem inStep_of_sync {strict : Prop} {c : Channel} (hs : Sync strict c)
    (hk : Kept strict c.running) : InStep c where
  answers reading hmem := (hk reading hmem).1
  nothingLeft hwait hedit hsmart := by
    cases hs with
    | idle _ _ _ _ hsink => exact hsink
    | late _ hsink => exact hsink
    | job _ hhears =>
      cases hhears with
      | editing hjob _ => cases hedit.symm.trans hjob
      | smartEdit hjob _ => cases hsmart.symm.trans hjob
    | left _ _ hjob => cases hsmart.symm.trans hjob
    | closing hno => cases hwait.symm.trans hno
    | serving hno => cases hwait.symm.trans hno

/-- **What holds**: in every undisturbed run each state it reaches. -/
theorem undisturbed_inStep {c : Channel}
    (hc : (Channel.system.restrict (Move.undisturbed False)).Reachable c) : InStep c := by
  obtain ⟨hs, hk⟩ := sync_inductive.reachable hc
  exact inStep_of_sync hs hk

namespace Concrete

def jobId : Uuid4 := ⟨0x6b1f0d9ec0de4a1e8f00000000000001, rfl⟩
def materialId : Uuid4 := ⟨0x6b1f0d9ec0de4a1e8f00000000000004, by decide⟩

def request : VideoWorkerLocalEditingJobRequest where
  projectId := ⟨0x6b1f0d9ec0de4a1e8f00000000000002, rfl⟩
  timelineId := ⟨0x6b1f0d9ec0de4a1e8f00000000000003, rfl⟩
  timelineRevision := 1
  distinct := by decide
  positive := Nat.one_pos
  bounded := by decide

/-- A worker that was just started. -/
def fresh : Channel := ⟨{ mediaTools := true, scriptModel := true }, none⟩

/-- Undisturbed steps, as a computation. -/
def calm : Move → Channel → Bool
  | .act .take, c =>
    match c.running.child.stdin with
    | .cancel _ :: _ => c.running.child.active ≠ none
    | _ => true
  | .act (.expire _), c => c.waiting = none ∧ c.running.child.threads = []
  | .finalizeSmartEditJob .., c => c.running.child.smartStaged ≠ none
  | .trySmartEditEvent _ calls, _ => calls.loaded
  | .receive calls, _ => calls.removed
  | .timeOut, _ => false
  | _, _ => true

theorem calm_undisturbed {strict : Prop} {move : Move} {c : Channel} (h : calm move c = true) :
    move.undisturbed strict c := by
  cases move with
  | act act =>
    cases act with
    | take =>
      intro j rest hin
      simp only [calm, hin] at h
      exact of_decide_eq_true h
    | expire removed =>
      exact of_decide_eq_true (p := c.waiting = none ∧ c.running.child.threads = []) h
    | _ => trivial
  | finalizeSmartEditJob jobId action calls =>
    exact fun _ _ _ _ => of_decide_eq_true (p := c.running.child.smartStaged ≠ none) h
  | trySmartEditEvent jobId calls => exact fun _ => h
  | receive calls => exact fun _ => h
  | timeOut => cases h
  | _ => trivial

def calmStep (c : Channel) (move : Move) : Option Channel :=
  if calm move c then c.step move else none

theorem calmStep_undisturbed {strict : Prop} {c c' : Channel} {move : Move}
    (h : calmStep c move = some c') :
    (Channel.system.restrict (Move.undisturbed strict)).step c move c' := by
  unfold calmStep at h
  split at h
  · rename_i hcalm
    exact ⟨h, calm_undisturbed hcalm⟩
  · cases h

/-- A thread does its next piece of work and prints its report. -/
def reports (o : Outcome) : List Move := [.act (.thread 0 o), .act (.print 0)]

/-- The host starts a job whose material is gone; the worker fails it. -/
def fails : List Move :=
  [.startLocalEditingJob jobId request {}, .act .take, .act (.dispatch true true)] ++
    reports (.done false) ++ reports (.done false) ++
    [.act (.thread 0 (.rejected .materialUnavailable))] ++ reports (.done false)

def polls (n : Nat) : List Move := List.replicate n (.tryLocalEditingEvent jobId)

theorem started_fresh : Channel.system.init fresh := ⟨⟨rfl, rfl, rfl, rfl⟩, rfl⟩

/-- The host reads how its job failed, and then forgets a material. -/
def settles : List Move :=
  fails ++ polls 3 ++ [.finishLocalEditingJob jobId, .requestLocalMaterial .forget materialId {},
    .act .take, .act (.dispatch true true)] ++ reports (.answers .forgotten) ++ [.receive {}]

theorem failed_inStep : ∃ c : Channel,
    c.running.readings.map (fun reading => (reading.wanted, reading.line)) =
      [(0, .progress jobId .preparing 0), (0, .progress jobId .rendering 800),
        (0, .failed jobId .materialUnavailable), (1, .material materialId .forgotten)] ∧
      InStep c := by
  have hrun : (settles.foldlM calmStep fresh).map
        (fun c => c.running.readings.map fun reading => (reading.wanted, reading.line)) =
      some [(0, .progress jobId .preparing 0), (0, .progress jobId .rendering 800),
        (0, .failed jobId .materialUnavailable), (1, .material materialId .forgotten)] := by
    decide +kernel
  obtain ⟨c, hc, hreadings⟩ := Option.map_eq_some_iff.1 hrun
  exact ⟨c, hreadings, undisturbed_inStep
    ⟨fresh, settles, started_fresh, .of_foldlM (fun _ _ _ => calmStep_undisturbed) hc⟩⟩

/-- The cancellation crosses the failure. -/
def labels : List Move :=
  fails ++ [.requestLocalEditingCancel jobId {}, .act .take, .act .loopPrint] ++ polls 3 ++
    [.finishLocalEditingJob jobId]

/-- **Counterexample**: the job is finished, and a line is left. -/
theorem line_left : ¬∀ c : Channel, Channel.system.Reachable c → InStep c := by
  intro h
  have hrun : (labels.foldlM Channel.step fresh).map (fun c => (c.waiting.isNone &&
      c.running.editingJob.isNone && c.running.smartEditJob.isNone, c.running.child.sink)) =
      some (true, [(1, .workerCancelled jobId)]) := by decide +kernel
  obtain ⟨c, hc, hstate⟩ := Option.map_eq_some_iff.1 hrun
  simp only [Prod.mk.injEq, Bool.and_eq_true, Option.isNone_iff_eq_none] at hstate
  obtain ⟨⟨⟨hwait, hedit⟩, hsmart⟩, hsink⟩ := hstate
  have hnil := (h c ⟨fresh, labels, started_fresh, .of_foldlM (fun _ _ _ h => h) hc⟩).nothingLeft
    hwait hedit hsmart
  rw [hsink] at hnil
  cases hnil

end Concrete

end AutomationTool.Bugs.CrossedCancel
