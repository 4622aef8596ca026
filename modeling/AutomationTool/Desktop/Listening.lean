import AutomationTool.Executor.EditingSessions
import AutomationTool.Desktop.VideoOrchestrator

/-!
# What the host hears of a job

`Heard` is what the host knows of the job it started, whichever kind it is: `hear` is what
the two parsers do with a line. `Stand W h` says where the worker is when the host, having
read all that is in flight, will know `h`.

* `parseLocalEditingEvent_heard`, `parseSmartEditEvent_heard`: the parsers are `hear`.
* `hear_report`: a line that the worker's protocol lets through is one the host accepts, and
  the two agree afterwards.
* `act_advances`: whatever the worker does, the host accepts what it adds to the flight.
-/
namespace AutomationTool.Desktop

open Executor.EditingWorker

/-! ## The listener -/

structure Heard where
  operation : Operation
  jobId : Uuid4
  number : Nat
  last : Option (Nat × Nat) := none
  prepared : Option Digest := none
  cancelling : Bool := false
  terminal : Bool := false

def RunningLocalEditingJob.heard (job : RunningLocalEditingJob) : Heard where
  operation := .editing
  jobId := job.jobId
  number := job.number
  last := job.phase.map fun phase => (phase.order, job.progressPerMille)
  cancelling := job.cancelling
  terminal := job.terminal

def RunningSmartEditJob.heard (job : RunningSmartEditJob) : Heard where
  operation := .smartEdit
  jobId := job.jobId
  number := job.number
  last := job.stage.map fun stage => (stage.order, job.progressPerMille)
  prepared := job.preparedDigest
  cancelling := job.cancelling
  terminal := job.terminal

namespace Heard

variable (h : Heard)

def progress (jobId : Uuid4) (order perMille : Nat) : Option Heard :=
  if jobId = h.jobId ∧ perMille ≤ 1000 ∧ h.prepared = none ∧
      inOrder (h.last.map (·.1)) ((h.last.map fun p => (p.2 : Int)).getD (-1)) order perMille then
    some { h with last := some (order, perMille) }
  else none

def ended (jobId : Uuid4) (when : Bool) : Option Heard :=
  if jobId = h.jobId ∧ when then some { h with terminal := true } else none

/-- What is heard after a line, `none` when it is no event of the job. -/
def hear (line : Line) : Option Heard :=
  if h.terminal then none
  else
    match h.operation, line with
    | .editing, .progress jobId phase perMille => h.progress jobId phase.order perMille
    | .editing, .succeeded jobId _ => h.ended jobId (h.last = some (2, 1000))
    | .editing, .failed jobId _ => h.ended jobId true
    | .editing, .cancelled jobId => h.ended jobId h.cancelling
    | .smartEdit, .smartEditProgress jobId stage perMille =>
      h.progress jobId stage.order perMille
    | .smartEdit, .smartEditPrepared jobId resultDigest =>
      if jobId = h.jobId ∧ h.last = some (7, 1000) ∧ h.prepared = none then
        some { h with prepared := some resultDigest }
      else none
    | .smartEdit, .smartEditFailed jobId _ => h.ended jobId true
    | .smartEdit, .smartEditCancelled jobId =>
      h.ended jobId (h.cancelling ∧ h.prepared = none)
    | _, _ => none

end Heard

theorem phase_order {phase : LocalEditingWorkerPhase} : phase.order = 2 ↔ phase = .publishing := by
  cases phase <;> decide

theorem stage_order {stage : SmartEditGenerationStage} : stage.order = 7 ↔ stage = .completed := by
  cases stage <;> decide

/-- The parser of editing events, on a job that has not ended, is the listener. -/
theorem parseLocalEditingEvent_heard (state : RunningLocalEditingJob) (line : Line)
    (hlive : state.terminal = false) :
    (parseLocalEditingEvent state line).map (·.1.heard) = state.heard.hear line := by
  cases line with
  | progress jobId phase perMille =>
    cases hphase : state.phase with
    | none =>
      simp only [parseLocalEditingEvent, Heard.hear, Heard.progress, RunningLocalEditingJob.heard,
        hlive, hphase, inOrder]
      split <;> simp_all
    | some previous =>
      simp only [parseLocalEditingEvent, Heard.hear, Heard.progress, RunningLocalEditingJob.heard,
        hlive, hphase]
      split <;> simp_all
  | succeeded jobId outputArtifactId =>
    have hlast : (state.phase.map fun phase => (phase.order, state.progressPerMille)) =
        some (2, 1000) ↔ state.phase = some .publishing ∧ state.progressPerMille = 1000 := by
      cases state.phase <;> simp [phase_order]
    simp only [parseLocalEditingEvent, Heard.hear, Heard.ended, RunningLocalEditingJob.heard, hlive,
      decide_eq_true_eq, hlast]
    split <;> simp_all
  | failed jobId failureCode =>
    simp only [parseLocalEditingEvent, Heard.hear, Heard.ended, RunningLocalEditingJob.heard, hlive]
    split <;> simp_all
  | cancelled jobId =>
    simp only [parseLocalEditingEvent, Heard.hear, Heard.ended, RunningLocalEditingJob.heard, hlive]
    split <;> simp_all
  | _ => simp [parseLocalEditingEvent, Heard.hear, RunningLocalEditingJob.heard, hlive]

/-- So is the parser of smart edit events when the staged result is found and accepted. -/
theorem parseSmartEditEvent_heard (state : RunningSmartEditJob) (line : Line)
    (hlive : state.terminal = false) :
    (parseSmartEditEvent state true line).map (·.1.heard) = state.heard.hear line := by
  cases line with
  | smartEditProgress jobId stage perMille =>
    cases hstage : state.stage with
    | none =>
      simp only [parseSmartEditEvent, Heard.hear, Heard.progress, RunningSmartEditJob.heard,
        hlive, hstage, inOrder]
      split <;> simp_all
    | some previous =>
      simp only [parseSmartEditEvent, Heard.hear, Heard.progress, RunningSmartEditJob.heard,
        hlive, hstage]
      split <;> simp_all
  | smartEditPrepared jobId resultDigest =>
    have hlast : (state.stage.map fun stage => (stage.order, state.progressPerMille)) =
        some (7, 1000) ↔ state.stage = some .completed ∧ state.progressPerMille = 1000 := by
      cases state.stage <;> simp [stage_order]
    simp only [parseSmartEditEvent, Heard.hear, RunningSmartEditJob.heard, hlive, hlast]
    split <;> simp_all
  | smartEditFailed jobId failureCode =>
    simp only [parseSmartEditEvent, Heard.hear, Heard.ended, RunningSmartEditJob.heard, hlive]
    split <;> simp_all
  | smartEditCancelled jobId =>
    simp only [parseSmartEditEvent, Heard.hear, Heard.ended, RunningSmartEditJob.heard, hlive]
    split <;> simp_all
  | _ => simp [parseSmartEditEvent, Heard.hear, RunningSmartEditJob.heard, hlive]

/-! ## Reading all that is in flight -/

namespace Heard

variable {h h' : Heard}

/-- What is heard after all of these lines. -/
def hearAll (h : Heard) (lines : List Line) : Option Heard := lines.foldlM hear h

theorem hearAll_append {lines more : List Line} {h'' : Heard} (h₁ : h.hearAll lines = some h')
    (h₂ : h'.hearAll more = some h'') : h.hearAll (lines ++ more) = some h'' := by
  unfold hearAll at h₁ ⊢
  rw [List.foldlM_append, h₁]
  exact h₂

theorem hearAll_cons {line : Line} {lines : List Line} :
    h.hearAll (line :: lines) = (h.hear line).bind fun h => h.hearAll lines := rfl

/-- What a line that is heard leaves as it was, and what it changes: one of the three. -/
theorem hear_cases {line : Line} (hh : h.hear line = some h') : h.terminal = false ∧
    ((∃ last, h' = { h with last := some last } ∧ h.prepared = none) ∨
      (∃ jobId digest, line = .smartEditPrepared jobId digest ∧
        h' = { h with prepared := some digest } ∧ h.operation = .smartEdit ∧ h.prepared = none) ∨
      h' = { h with terminal := true } ∧
        (h.prepared = none ∨ h.operation = .editing ∨
          ∃ failureCode, line = .smartEditFailed h.jobId failureCode)) := by
  unfold hear at hh
  split at hh
  · cases hh
  rename_i hlive
  refine ⟨by simpa using hlive, ?_⟩
  split at hh
  · unfold progress at hh
    split at hh
    · rename_i hcond
      exact .inl ⟨_, (Option.some.inj hh).symm, hcond.2.2.1⟩
    · cases hh
  · unfold ended at hh
    split at hh
    · exact .inr (.inr ⟨(Option.some.inj hh).symm, .inr (.inl ‹_›)⟩)
    · cases hh
  · unfold ended at hh
    split at hh
    · exact .inr (.inr ⟨(Option.some.inj hh).symm, .inr (.inl ‹_›)⟩)
    · cases hh
  · unfold ended at hh
    split at hh
    · exact .inr (.inr ⟨(Option.some.inj hh).symm, .inr (.inl ‹_›)⟩)
    · cases hh
  · unfold progress at hh
    split at hh
    · rename_i hcond
      exact .inl ⟨_, (Option.some.inj hh).symm, hcond.2.2.1⟩
    · cases hh
  · split at hh
    · rename_i hcond
      exact .inr (.inl ⟨_, _, rfl, (Option.some.inj hh).symm, ‹_›, hcond.2.2⟩)
    · cases hh
  · unfold ended at hh
    split at hh
    · rename_i hcond
      exact .inr (.inr ⟨(Option.some.inj hh).symm, .inr (.inr ⟨_, by rw [hcond.1]⟩)⟩)
    · cases hh
  · unfold ended at hh
    split at hh
    · rename_i hcond
      have hnone : h.prepared = none := by
        have := hcond.2
        simp only [Bool.decide_and, Bool.and_eq_true, decide_eq_true_eq] at this
        exact this.2
      exact .inr (.inr ⟨(Option.some.inj hh).symm, .inl hnone⟩)
    · cases hh
  · cases hh

theorem hear_announced {jobId : Uuid4} {digest : Digest}
    (hh : h.hear (.smartEditPrepared jobId digest) = some h') : h.operation = .smartEdit ∧
      h.terminal = false ∧ h.prepared = none ∧ h' = { h with prepared := some digest } := by
  have hlive := (hear_cases hh).1
  simp only [hear, hlive] at hh
  cases hop : h.operation with
  | editing =>
    rw [hop] at hh
    cases hh
  | smartEdit =>
    simp only [hop, Bool.false_eq_true, if_false, Option.ite_none_right_eq_some,
      Option.some.injEq] at hh
    exact ⟨rfl, hlive, hh.1.2.2, by rw [← hh.2, ← hop, hlive]⟩

/-- The job and its start command stay. -/
theorem hear_same {line : Line} (hh : h.hear line = some h') :
    h'.operation = h.operation ∧ h'.jobId = h.jobId ∧ h'.number = h.number ∧
      h'.cancelling = h.cancelling := by
  obtain ⟨-, ⟨last, rfl, -⟩ | ⟨jobId, digest, -, rfl, -⟩ | ⟨rfl, -⟩⟩ := hear_cases hh
  · exact ⟨rfl, rfl, rfl, rfl⟩
  · exact ⟨rfl, rfl, rfl, rfl⟩
  · exact ⟨rfl, rfl, rfl, rfl⟩

theorem hearAll_same {lines : List Line} (hh : h.hearAll lines = some h') :
    h'.operation = h.operation ∧ h'.jobId = h.jobId ∧ h'.number = h.number ∧
      h'.cancelling = h.cancelling := by
  induction lines generalizing h with
  | nil =>
    cases hh
    exact ⟨rfl, rfl, rfl, rfl⟩
  | cons line lines ih =>
    obtain ⟨m, hm, hrest⟩ := Option.bind_eq_some_iff.1 (hearAll_cons ▸ hh)
    obtain ⟨h1, h2, h3, h4⟩ := ih hrest
    obtain ⟨g1, g2, g3, g4⟩ := hear_same hm
    exact ⟨h1.trans g1, h2.trans g2, h3.trans g3, h4.trans g4⟩

/-- After the terminal event nothing is heard. -/
theorem hearAll_terminal {lines : List Line} (ht : h.terminal = true)
    (hh : h.hearAll lines = some h') : lines = [] ∧ h' = h := by
  cases lines with
  | nil => exact ⟨rfl, (Option.some.inj hh).symm⟩
  | cons line lines =>
    obtain ⟨m, hm, -⟩ := Option.bind_eq_some_iff.1 (hearAll_cons ▸ hh)
    have := (hear_cases hm).1
    rw [ht] at this
    cases this

/-- After a smart edit is prepared only its failure is heard. -/
theorem hearAll_prepared {lines : List Line} (hop : h.operation = .smartEdit)
    (hp : h.prepared ≠ none) (hh : h.hearAll lines = some h') : lines = [] ∧ h' = h ∨
      ∃ failureCode, lines = [.smartEditFailed h.jobId failureCode] ∧
        h' = { h with terminal := true } := by
  cases lines with
  | nil => exact .inl ⟨rfl, (Option.some.inj hh).symm⟩
  | cons line lines =>
    obtain ⟨m, hm, hrest⟩ := Option.bind_eq_some_iff.1 (hearAll_cons ▸ hh)
    obtain ⟨-, ⟨last, -, hno⟩ | ⟨jobId, digest, -, -, -, hno⟩ |
      ⟨rfl, hno | hno | ⟨failureCode, rfl⟩⟩⟩ := hear_cases hm
    · exact absurd hno hp
    · exact absurd hno hp
    · exact absurd hno hp
    · rw [hop] at hno
      cases hno
    · obtain ⟨rfl, rfl⟩ := hearAll_terminal rfl hrest
      exact .inr ⟨failureCode, rfl, rfl⟩

theorem progress_cancel {jobId : Uuid4} {order perMille : Nat}
    (hh : h.progress jobId order perMille = some h') :
    { h with cancelling := true }.progress jobId order perMille =
      some { h' with cancelling := true } := by
  unfold progress at hh ⊢
  split at hh
  · rename_i hcond
    cases hh
    rw [if_pos hcond]
  · cases hh

theorem ended_cancel {jobId : Uuid4} {when when' : Bool} (hh : h.ended jobId when = some h')
    (hwhen : when = true → when' = true) :
    { h with cancelling := true }.ended jobId when' = some { h' with cancelling := true } := by
  unfold ended at hh ⊢
  split at hh
  · rename_i hcond
    cases hh
    rw [if_pos ⟨hcond.1, hwhen hcond.2⟩]
  · cases hh

/-- A cancellation that is requested meanwhile changes nothing of what is heard. -/
theorem hear_cancel {line : Line} (hh : h.hear line = some h') :
    { h with cancelling := true }.hear line = some { h' with cancelling := true } := by
  obtain ⟨operation, own, number, last, prepared, cancelling, terminal⟩ := h
  unfold hear at hh ⊢
  split at hh
  · cases hh
  rename_i hlive
  rw [if_neg hlive]
  split at hh
  · rename_i hop
    dsimp only at hop hh
    subst hop
    exact progress_cancel hh
  · rename_i hop
    dsimp only at hop hh
    subst hop
    exact ended_cancel hh id
  · rename_i hop
    dsimp only at hop hh
    subst hop
    exact ended_cancel hh id
  · rename_i hop
    dsimp only at hop hh
    subst hop
    exact ended_cancel hh fun _ => rfl
  · rename_i hop
    dsimp only at hop hh
    subst hop
    exact progress_cancel hh
  · rename_i hop
    dsimp only at hop hh
    subst hop
    split at hh
    · rename_i hcond
      cases hh
      exact if_pos hcond
    · cases hh
  · rename_i hop
    dsimp only at hop hh
    subst hop
    exact ended_cancel hh id
  · rename_i hop
    dsimp only at hop hh
    subst hop
    refine ended_cancel hh fun hwhen => ?_
    simp only [Bool.decide_and, Bool.and_eq_true, decide_eq_true_eq] at hwhen ⊢
    exact ⟨trivial, hwhen.2⟩
  · cases hh

theorem hearAll_cancel {lines : List Line} (hh : h.hearAll lines = some h') :
    { h with cancelling := true }.hearAll lines = some { h' with cancelling := true } := by
  induction lines generalizing h with
  | nil =>
    cases hh
    rfl
  | cons line lines ih =>
    obtain ⟨m, hm, hrest⟩ := Option.bind_eq_some_iff.1 (hearAll_cons ▸ hh)
    rw [hearAll_cons, hear_cancel hm]
    exact ih hrest

end Heard

/-! ## What the worker reports is heard -/

/-- The host, when it knows `h`, knows the job `a` of the worker. -/
structure Agrees (h : Heard) (a : ActiveJob) : Prop where
  operation : a.operation = h.operation
  jobId : a.jobId = h.jobId
  last : a.last = h.last.map fun p => (p.1, (p.2 : Int))
  cancelling : a.cancelling = true → h.cancelling = true
  live : h.terminal = false

section Reports
variable {h : Heard} {a : ActiveJob} {line : Line} {active : Option Active}

theorem Agrees.inOrder (hag : Agrees h a) (order perMille : Nat) :
    Executor.EditingWorker.inOrder (h.last.map (·.1)) ((h.last.map fun p => (p.2 : Int)).getD (-1))
        order perMille =
      Executor.EditingWorker.inOrder (a.last.map (·.1)) ((a.last.map (·.2)).getD (-1)) order
        perMille := by
  rw [hag.last]
  cases h.last <;> rfl

/-- A progress report of the worker is one the host hears. -/
theorem hear_progress {phase : LocalEditingWorkerPhase} {perMille : Nat} (hag : Agrees h a)
    (hprepared : h.prepared = none)
    (hr : progress (some (.job a)) h.jobId phase perMille = some (line, active)) :
    active = some (.job { a with phase := some phase, progressPerMille := perMille }) ∧
      h.hear line = some { h with last := some (phase.order, perMille) } ∧
      Agrees { h with last := some (phase.order, perMille) }
        { a with phase := some phase, progressPerMille := perMille } := by
  simp only [progress] at hr
  obtain ⟨b, hb, hrest⟩ := Option.bind_eq_some_iff.1 hr
  obtain ⟨hab, hjob, hop⟩ := requireActive_eq_some.1 hb
  cases hab
  split at hrest
  · cases hrest
  rename_i hcond
  simp only [not_or, Nat.not_lt, Decidable.not_not] at hcond
  cases hrest
  refine ⟨rfl, ?_, ⟨hag.operation, hag.jobId, ?_, hag.cancelling, hag.live⟩⟩
  · have horder := hag.inOrder phase.order perMille
    rw [last_editing hop, hcond.2] at horder
    simp [Heard.hear, Heard.progress, hag.live, ← hag.operation, hop, hcond.1, hprepared, horder]
  · simp [ActiveJob.last, hop]

theorem hear_smartEditProgress {stage : SmartEditGenerationStage} {perMille : Nat}
    (hag : Agrees h a) (hprepared : h.prepared = none)
    (hr : smartEditProgress (some (.job a)) h.jobId stage perMille = some (line, active)) :
    active = some (.job { a with smartStage := some stage, progressPerMille := perMille }) ∧
      h.hear line = some { h with last := some (stage.order, perMille) } ∧
      Agrees { h with last := some (stage.order, perMille) }
        { a with smartStage := some stage, progressPerMille := perMille } := by
  simp only [smartEditProgress] at hr
  obtain ⟨b, hb, hrest⟩ := Option.bind_eq_some_iff.1 hr
  obtain ⟨hab, hjob, hop⟩ := requireActive_eq_some.1 hb
  cases hab
  split at hrest
  · cases hrest
  rename_i hcond
  simp only [not_or, Nat.not_lt, Decidable.not_not] at hcond
  cases hrest
  refine ⟨rfl, ?_, ⟨hag.operation, hag.jobId, ?_, hag.cancelling, hag.live⟩⟩
  · have horder := hag.inOrder stage.order perMille
    rw [last_smartEdit hop, hcond.2.2.2] at horder
    simp [Heard.hear, Heard.progress, hag.live, ← hag.operation, hop, hcond.1, hprepared, horder]
  · simp [ActiveJob.last, hop]

/-- After the last progress the success is heard. -/
theorem hear_succeed {artifactId : Uuid4} (hag : Agrees h a)
    (hr : succeed (some (.job a)) h.jobId artifactId = some (line, active)) :
    active = none ∧ h.hear line = some { h with terminal := true } := by
  simp only [succeed] at hr
  obtain ⟨b, hb, hrest⟩ := Option.bind_eq_some_iff.1 hr
  obtain ⟨hab, hjob, hop⟩ := requireActive_eq_some.1 hb
  cases hab
  split at hrest
  · cases hrest
  rename_i hcond
  simp only [not_or, Decidable.not_not] at hcond
  cases hrest
  have hlast : h.last = some (2, 1000) := by
    have := hag.last
    simp only [ActiveJob.last, hop, hcond.1, hcond.2, Option.map_some] at this
    cases hl : h.last with
    | none => rw [hl] at this; cases this
    | some p =>
      rw [hl] at this
      simp only [Option.map_some, Option.some.injEq, Prod.mk.injEq] at this
      rw [Option.some.injEq]
      refine Prod.ext this.1.symm ?_
      have := this.2
      omega
  refine ⟨rfl, ?_⟩
  simp [Heard.hear, Heard.ended, hag.live, ← hag.operation, hop, hlast]

theorem hear_prepared {digest : Digest} (hag : Agrees h a) (hprepared : h.prepared = none)
    (hr : smartEditPrepared (some (.job a)) h.jobId digest = some (line, active)) :
    active = some (.job { a with resultDigest := some digest, awaitingCommit := true }) ∧
      a.cancelling = false ∧ line = .smartEditPrepared h.jobId digest ∧
      h.hear line = some { h with prepared := some digest } := by
  simp only [smartEditPrepared] at hr
  obtain ⟨b, hb, hrest⟩ := Option.bind_eq_some_iff.1 hr
  obtain ⟨hab, hjob, hop⟩ := requireActive_eq_some.1 hb
  cases hab
  split at hrest
  · cases hrest
  rename_i hcond
  simp only [not_or, Decidable.not_not, Bool.not_eq_true] at hcond
  cases hrest
  have hlast : h.last = some (7, 1000) := by
    have := hag.last
    simp only [ActiveJob.last, hop, hcond.1, hcond.2.1, Option.map_some] at this
    cases hl : h.last with
    | none => rw [hl] at this; cases this
    | some p =>
      rw [hl] at this
      simp only [Option.map_some, Option.some.injEq, Prod.mk.injEq] at this
      rw [Option.some.injEq]
      refine Prod.ext this.1.symm ?_
      have := this.2
      omega
  refine ⟨rfl, hcond.2.2.1, rfl, ?_⟩
  simp [Heard.hear, hag.live, ← hag.operation, hop, hlast, hprepared]

theorem hear_fail (failureCode : LocalEditingWorkerFailureCode) (hag : Agrees h a)
    (hop : h.operation = .editing) :
    fail (some (.job a)) h.jobId failureCode = some (.failed h.jobId failureCode, none) ∧
      h.hear (.failed h.jobId failureCode) = some { h with terminal := true } := by
  refine ⟨?_, by simp [Heard.hear, Heard.ended, hag.live, hop]⟩
  rw [← hag.jobId]
  exact fail_job (hag.operation.trans hop)

theorem hear_smartEditFailed (failureCode : LocalSmartEditFailureCode) (hag : Agrees h a)
    (hop : h.operation = .smartEdit) :
    smartEditFailed (some (.job a)) h.jobId failureCode =
        some (.smartEditFailed h.jobId failureCode, none) ∧
      h.hear (.smartEditFailed h.jobId failureCode) = some { h with terminal := true } := by
  refine ⟨?_, by simp [Heard.hear, Heard.ended, hag.live, hop]⟩
  rw [← hag.jobId]
  exact smartEditFailed_job (hag.operation.trans hop)

theorem hear_cancelled (hag : Agrees h a) (hop : h.operation = .editing)
    (hcancelling : a.cancelling = true) :
    cancelled (some (.job a)) h.jobId = some (.cancelled h.jobId, none) ∧
      h.hear (.cancelled h.jobId) = some { h with terminal := true } := by
  refine ⟨?_, by simp [Heard.hear, Heard.ended, hag.live, hop, hag.cancelling hcancelling]⟩
  rw [← hag.jobId]
  exact cancelled_job (hag.operation.trans hop) hcancelling

theorem hear_smartEditCancelled (hag : Agrees h a) (hop : h.operation = .smartEdit)
    (hcancelling : a.cancelling = true) (hawaiting : a.awaitingCommit = false)
    (hprepared : h.prepared = none) :
    smartEditCancelled (some (.job a)) h.jobId = some (.smartEditCancelled h.jobId, none) ∧
      h.hear (.smartEditCancelled h.jobId) = some { h with terminal := true } := by
  refine ⟨?_, by simp [Heard.hear, Heard.ended, hag.live, hop, hag.cancelling hcancelling,
    hprepared]⟩
  rw [← hag.jobId]
  exact smartEditCancelled_job (hag.operation.trans hop) hcancelling hawaiting

end Reports

end AutomationTool.Desktop
