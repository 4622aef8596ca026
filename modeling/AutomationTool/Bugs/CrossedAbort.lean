import AutomationTool.Bugs.CrossedCancel

/-!
# An abort that crosses the commit timer is answered with a line the host rejects

Behaviour (worker_main.py:477-499): when nobody commits a staged
smart edit in time, the worker gives it up and reports `failed` with `commit_failed`. An
abort that is on its way then finds nothing staged and is not answered. The host waits for
its answer and reads that `failed`: `valid_smart_edit_aborted`
(local_video_orchestrator.rs:3905-3954) takes a failure for an answer only when its code is
`local_failed`. The request is rejected as unauthentic, the job stays as it was, and it can
neither be finished nor aborted any more.

Evidence: `valid_smart_edit_succeeded`, beside it, takes `commit_failed` for an answer, and a
`failed` that is polled ends the job whatever its code.

Counterexample: the timer fires when the abort has been written.

`undisturbed_endsTogether`: otherwise every event is accepted and both sides end the job
together.
-/
namespace AutomationTool.Bugs.CrossedAbort

open Desktop Executor.EditingWorker

/-- Every event is accepted, and both sides have ended the job once it has been read. -/
structure EndsTogether (c : Channel) : Prop where
  accepted : ∀ reading ∈ c.running.readings, reading.accepted = true
  /-- When the host's job has ended, so has the worker's, and nothing of it is left. -/
  host : ∀ job, c.running.smartEditJob = some job → job.terminal = true →
    c.running.child.active = none ∧ flight c.running.child = []
  /-- When the worker's job has ended and all of it was read, the host's has ended. -/
  worker : ∀ job, c.running.smartEditJob = some job → c.waiting = none →
    job.number < c.running.child.read → c.running.child.active = none →
    flight c.running.child = [] → job.terminal = true
  /-- A worker that has nothing left to do has ended its job. -/
  ends : c.running.child.Resting → c.running.child.stdin = [] → c.running.child.active = none

section Sync
variable {c : Channel}

theorem host_of_sync (hs : Sync True c) {job : RunningSmartEditJob}
    (hjob : c.running.smartEditJob = some job) (hterminal : job.terminal = true) :
    c.running.child.active = none ∧ flight c.running.child = [] := by
  cases hs with
  | idle _ _ hno => cases hno.symm.trans hjob
  | late _ _ _ _ hsmart =>
    have := (hsmart job hjob).1
    rw [hterminal] at this
    cases this
  | job _ hhears hflight hheard hstand =>
    cases hhears with
    | editing _ hno => cases hno.symm.trans hjob
    | smartEdit hjob' _ =>
      cases hjob.symm.trans hjob'
      obtain ⟨rfl, rfl⟩ := Heard.hearAll_terminal (h := job.heard) hterminal hheard
      exact ⟨(hstand.finished hterminal hflight).1.active, hflight⟩
  | left hloose => exact absurd trivial hloose
  | closing _ hjob' _ hlive =>
    cases hjob.symm.trans hjob'
    rw [hterminal] at hlive
    cases hlive
  | serving _ _ hno => cases hno.symm.trans hjob

theorem worker_of_sync (hs : Sync True c) {job : RunningSmartEditJob}
    (hjob : c.running.smartEditJob = some job) (hwait : c.waiting = none)
    (hread : job.number < c.running.child.read) (hactive : c.running.child.active = none)
    (hflight : flight c.running.child = []) : job.terminal = true := by
  cases hs with
  | idle _ _ hno => cases hno.symm.trans hjob
  | late _ _ _ _ hsmart =>
    have := (hsmart job hjob).2.2
    omega
  | job _ hhears hflight' hheard hstand =>
    cases hhears with
    | editing _ hno => cases hno.symm.trans hjob
    | @smartEdit own hjob' _ =>
      cases hjob.symm.trans hjob'
      rw [hflight] at hflight'
      have hnil := List.map_eq_nil_iff.1 hflight'.symm
      subst hnil
      cases hheard
      cases hstand with
      | sent _ _ _ _ hnumber =>
        have : job.number = c.running.child.read := hnumber
        omega
      | starting _ _ hbusy => cases hactive.symm.trans hbusy
      | rendering _ hbusy => cases hactive.symm.trans hbusy
      | generating _ hbusy => cases hactive.symm.trans hbusy
      | awaiting _ hbusy => cases hactive.symm.trans hbusy
      | ended _ _ _ _ _ _ _ hterminal => exact hterminal
  | left hloose => exact absurd trivial hloose
  | closing hno => cases hwait.symm.trans hno
  | serving hno => cases hwait.symm.trans hno

/-- A worker that rests has carried out what it accepted. -/
theorem resting_command {W : Worker} (h : W.Resting) : W.command = none := by
  have hdispatch := h (.dispatch true true) (fun h => nomatch h) rfl
  cases hc : W.command with
  | none => rfl
  | some p =>
    rw [Worker.act, hc] at hdispatch
    cases hdispatch

theorem resting_stand {W : Worker} {h : Heard} (hr : W.Resting) (hs : Stand W h) :
    W.active = none := by
  cases hs with
  | sent hquiet => exact hquiet.active
  | starting hc => cases (resting_command hr).symm.trans hc
  | rendering _ _ _ hthreads => cases (hr.threads hthreads).2
  | generating _ _ _ hthreads => cases (hr.threads hthreads).2
  | @awaiting a job hop hactive hagrees hthreads hawaiting hdigest hcancelling hfin hstaged hjob
      hnumber htimer =>
    rcases hthreads with ⟨line, hone⟩ | hnone
    · cases (hr.threads hone).1
    · have hexpire := hr (.expire true) (fun h => nomatch h) ⟨hnone, rfl⟩
      simp [Worker.act, Worker.expireSmartEdit, htimer, hstaged, hjob] at hexpire
  | ended hactive => exact hactive

theorem ends_of_sync (hs : Sync True c) (hr : c.running.child.Resting)
    (hstdin : c.running.child.stdin = []) : c.running.child.active = none := by
  cases hs with
  | idle _ _ _ hquiet => exact hquiet.active
  | late hquiet => exact hquiet.active
  | job _ _ _ _ hstand => exact resting_stand hr hstand
  | left _ _ _ _ _ _ hquiet => exact hquiet.active
  | closing _ _ _ _ _ hclosing =>
    cases hclosing with
    | sent _ _ _ _ _ _ _ _ _ _ _ _ _ _ hin =>
      rw [hstdin] at hin
      simp at hin
    | accepted _ _ _ _ _ _ _ _ _ hc => cases (resting_command hr).symm.trans hc
    | answered hactive => exact hactive
  | serving _ _ _ hserving =>
    cases hserving with
    | sent hquiet => exact hquiet.active
    | accepted _ hc => cases (resting_command hr).symm.trans hc
    | working _ _ hthreads => cases (hr.threads hthreads).2
    | answered _ hactive => exact hactive

end Sync

/-- **What holds**: in every undisturbed run each state it reaches. -/
theorem undisturbed_endsTogether {c : Channel}
    (hc : (Channel.system.restrict (Move.undisturbed True)).Reachable c) : EndsTogether c := by
  obtain ⟨hs, hk⟩ := sync_inductive.reachable hc
  exact {
    accepted := fun reading hmem => (hk reading hmem).2 trivial
    host := fun _ hjob hterminal => host_of_sync hs hjob hterminal
    worker := fun _ hjob hwait hread hactive hflight =>
      worker_of_sync hs hjob hwait hread hactive hflight
    ends := ends_of_sync hs }

namespace Concrete

open CrossedCancel.Concrete

/-- A thread reports its progress, and the host reads it. -/
def tells : List Move := reports (.done true) ++ [.trySmartEditEvent jobId {}]

/-- A smart edit is staged, and the host reads that. -/
def prepares : List Move :=
  [.startSmartEditJob jobId {}, .act .take, .act (.dispatch true true)] ++
    tells ++ tells ++ tells ++ tells ++ tells ++
    [.act (.thread 0 (.staged 7)), .act (.thread 0 (.done true)), .act (.thread 0 (.starts true)),
      .act (.print 0), .trySmartEditEvent jobId {}]

def aborts : List Move :=
  prepares ++ [.finalizeSmartEditJob jobId .abort {}, .act .take, .act (.dispatch true true),
    .act .loopPrint, .receive {}]

theorem aborted_endsTogether : ∃ c : Channel,
    c.running.readings.map (·.line) = [.smartEditProgress jobId .preparing 0,
      .smartEditProgress jobId .analyzing 100, .smartEditProgress jobId .selecting 850,
      .smartEditProgress jobId .publishing 950, .smartEditProgress jobId .completed 1000,
      .smartEditPrepared jobId 7, .smartEditAborted jobId] ∧ EndsTogether c := by
  have hrun : (aborts.foldlM calmStep fresh).map (fun c => c.running.readings.map (·.line)) =
      some [.smartEditProgress jobId .preparing 0, .smartEditProgress jobId .analyzing 100,
        .smartEditProgress jobId .selecting 850, .smartEditProgress jobId .publishing 950,
        .smartEditProgress jobId .completed 1000, .smartEditPrepared jobId 7,
        .smartEditAborted jobId] := by decide +kernel
  obtain ⟨c, hc, hreadings⟩ := Option.map_eq_some_iff.1 hrun
  exact ⟨c, hreadings, undisturbed_endsTogether
    ⟨fresh, aborts, started_fresh, .of_foldlM (fun _ _ _ => calmStep_undisturbed) hc⟩⟩

/-- The timer fires when the abort has been written. -/
def labels : List Move :=
  prepares ++ [.finalizeSmartEditJob jobId .abort {}, .act (.expire true), .act (.print 0),
    .receive {}]

/-- **Counterexample**: the host rejects the end of the job, and keeps it. -/
theorem end_rejected : ¬∀ c : Channel, Channel.system.Reachable c → EndsTogether c := by
  intro h
  have hrun : (labels.foldlM Channel.step fresh).map (fun c =>
      (c.running.readings.getLast?, c.running.smartEditJob.map (·.terminal))) =
      some (some ⟨1, 0, .smartEditFailed jobId .commitFailed, false⟩, some false) := by
    decide +kernel
  obtain ⟨c, hc, hstate⟩ := Option.map_eq_some_iff.1 hrun
  simp only [Prod.mk.injEq] at hstate
  have hlast := (h c ⟨fresh, labels, started_fresh, .of_foldlM (fun _ _ _ h => h) hc⟩).accepted _
    (List.mem_of_getLast? hstate.1)
  cases hlast

end Concrete

end AutomationTool.Bugs.CrossedAbort
