import AutomationTool.Executor.EditingSessions

/-!
# A line is printed after the session it belongs to is over

Behaviour (worker_main.py:419-439): `smart_edit` takes the line
`prepared` from the protocol and starts the commit timer under its locks, and prints the line
when it has left them. `expire_smart_edit` (worker_main.py:477-499) does not wait for that:
it fails the job and prints `failed`, and `prepared` follows. In the same way `succeed`, `fail`
and the other terminal events free the protocol before they are printed, so that the next
operation may be accepted before the last one has reported its end.

Evidence: `LocalEditingWorkerProtocol` is "one authenticated stream with one render or
material operation at a time" (local_editing_worker.py:472); the host refuses every line of a
job that has ended (local_video_orchestrator.rs:2181, 2000-2002).

Counterexample: a smart edit is staged, and the timer fires before `prepared` is printed.

`unhurried_keepsSessions`: a worker in which nothing is accepted, apart from a cancellation, and the
timer does not fire while a thread is still at work, reports sessions and nothing else.
-/
namespace AutomationTool.Bugs.LateLine

open Executor.EditingWorker

/-- The log is one of sessions: each accepted operation is followed by its own events in
order and by exactly one terminal event, before which no other operation is accepted and
after which no event of it comes; a staged smart edit has been finalised once by then, and
committed just when it succeeded. No session is left open: the worker comes to rest by
itself, and then the last one has been closed. -/
structure KeepsSessions (W : Worker) : Prop where
  log : ∃ s, sessionOf W.log = some s
  comesToRest : ∀ as W', Alone W as W' → as.length ≤ W.rank
  closed : W.Resting → sessionOf W.log = some .idle

theorem sessions_of_sound {W : Worker} (h : Sound W) : KeepsSessions W where
  log := by
    obtain ⟨s, htold, -⟩ := h.stance
    exact sessionOf_left htold
  comesToRest as W' hrun := by
    have := hrun.length_le
    omega
  closed := resting_idle h

/-- **What holds**: in every run of an unhurried worker each state it reaches. -/
theorem unhurried_keepsSessions {W : Worker} (hW : (system.restrict Label.unhurried).Reachable W) :
    KeepsSessions W := sessions_of_sound (stance_inductive.reachable hW)

namespace Concrete

def jobId : Uuid4 := ⟨0x6b1f0d9ec0de4a1e8f00000000000001, by decide⟩
def projectId : Uuid4 := ⟨0x6b1f0d9ec0de4a1e8f00000000000002, by decide⟩
def timelineId : Uuid4 := ⟨0x6b1f0d9ec0de4a1e8f00000000000003, by decide⟩

/-- A step before which no thread is at work where that could matter. -/
def calm : Label → Worker → Bool
  | .act .take, W => W.threads = []
  | .act (.dispatch _ removed), _ => removed
  | .act (.thread _ (.removes removed)), _ => removed
  | .act (.expire removed), W => W.threads = [] ∧ removed
  | _, _ => true

theorem calm_unhurried {l : Label} {W : Worker} (h : calm l W = true) : l.unhurried W := by
  cases l with
  | send command => trivial
  | act a =>
    cases a with
    | take => exact fun _ _ _ _ _ _ => of_decide_eq_true h
    | dispatch committed removed => exact h
    | thread i o => cases o <;> first | exact h | trivial
    | expire removed => exact of_decide_eq_true (p := W.threads = [] ∧ removed = true) h
    | _ => trivial

/-- The system of such steps, computed. -/
def calmStep (W : Worker) (l : Label) : Option Worker := if calm l W then step W l else none

theorem calmStep_unhurried {W W' : Worker} {l : Label} (h : calmStep W l = some W') :
    (system.restrict Label.unhurried).step W l W' := by
  unfold calmStep at h
  split at h
  · rename_i hcalm
    exact ⟨h, calm_unhurried hcalm⟩
  · cases h

/-- A job whose material is gone. -/
def lost : List Label :=
  [.send (.editingStart jobId projectId timelineId 1), .act .take, .act (.dispatch true true),
    .act (.thread 0 (.done false)), .act (.print 0), .act (.thread 0 (.done false)),
    .act (.print 0), .act (.thread 0 (.rejected .materialUnavailable)),
    .act (.thread 0 (.done false)), .act (.print 0)]

theorem lost_keepsSessions : ∃ W : Worker,
    W.log = [.accepted (.editingStart jobId projectId timelineId 1),
      .emitted (.progress jobId .preparing 0), .emitted (.progress jobId .rendering 800),
      .emitted (.failed jobId .materialUnavailable)] ∧ KeepsSessions W := by
  have hrun : (lost.foldlM calmStep {}).map (·.log) =
      some [.accepted (.editingStart jobId projectId timelineId 1),
        .emitted (.progress jobId .preparing 0), .emitted (.progress jobId .rendering 800),
        .emitted (.failed jobId .materialUnavailable)] := by decide +kernel
  obtain ⟨W, hW, hlog⟩ := Option.map_eq_some_iff.1 hrun
  exact ⟨W, hlog,
    unhurried_keepsSessions ⟨{}, lost, rfl, .of_foldlM (fun _ _ _ => calmStep_unhurried) hW⟩⟩

/-- A thread does its next piece of work and prints its report. -/
def reports : List Label := [.act (.thread 0 (.done true)), .act (.print 0)]

/-- The timer fires before the smart edit thread prints `prepared`. -/
def labels : List Label :=
  [.send (.smartEditStart jobId), .act .take, .act (.dispatch true true)] ++
    reports ++ reports ++ reports ++ reports ++ reports ++
    [.act (.thread 0 (.staged 7)), .act (.thread 0 (.done true)), .act (.thread 0 (.starts true)),
      .act (.expire true), .act (.print 1), .act (.print 0)]

/-- **Counterexample**: `prepared` follows the terminal event of its job. -/
theorem prepared_afterFailed : ¬∀ W : Worker, system.Reachable W → KeepsSessions W := by
  intro h
  have hrun : (labels.foldlM step {}).map (fun W => (sessionOf W.log, W.log.drop 8)) =
      some (none, [.emitted (.smartEditFailed jobId .commitFailed),
        .emitted (.smartEditPrepared jobId 7)]) := by decide +kernel
  obtain ⟨W, hW, hlog⟩ := Option.map_eq_some_iff.1 hrun
  obtain ⟨s, hs⟩ := (h W ⟨{}, labels, rfl, .of_foldlM (fun _ _ _ h => h) hW⟩).log
  have hnone : sessionOf W.log = none := congrArg Prod.fst hlog
  rw [hnone] at hs
  cases hs

end Concrete

end AutomationTool.Bugs.LateLine
