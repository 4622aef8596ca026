import AutomationTool.Executor.EditingWorker

/-!
# The sessions of the editing worker

What the worker reports is a sequence of sessions: an accepted operation, its events, its one
terminal event. `Session` is the automaton that reads the log of a worker and rejects a log
that is anything else.

`Stance` says how the worker stands at each point of a session. `Unhurried` is the condition
under which the worker keeps it: nothing is accepted or expires while a thread of the worker
is still at work, apart from a cancellation.

* `stance_inductive`: the stance is kept, and the log together with the lines produced and
  not yet printed is read by the automaton up to the session of the stance.
* `act_rank`: what the worker does by itself comes to an end.
* `resting_idle`: a worker that has nothing left to do has closed its session.
-/
namespace AutomationTool.Executor.EditingWorker

/-! ## The automaton -/

/-- Where a log stands. `last` is the last progress, `staging` the staged smart edit and how
it was finalised. -/
inductive Session where
  | idle
  | job (operation : Operation) (jobId : Uuid4) (last : Option (Nat × Int))
      (staging : Option (Nat × Option Finalization))
  | material (command : MaterialCommand) (materialId : Uuid4)
  deriving DecidableEq

/-- Whether a terminal event may close a session whose staging is `staging`: a staged smart
edit has been finalised, committed just when the event is its success. -/
def closes (staging : Option (Nat × Option Finalization)) (success : Bool) : Bool :=
  match staging with
  | none => !success
  | some (_, none) => false
  | some (_, some .committed) => success
  | some (_, some .aborted) => !success

/-- An event of the session's job. -/
def Session.event (operation : Operation) (jobId : Uuid4) (last : Option (Nat × Int))
    (staging : Option (Nat × Option Finalization)) (line : Line) : Option Session :=
  let progress (order perMille : Nat) : Option Session :=
    if inOrder (last.map (·.1)) ((last.map (·.2)).getD (-1)) order perMille then
      some (.job operation jobId (some (order, perMille)) staging)
    else none
  let terminal (closing : Bool) : Option Session := if closing then some .idle else none
  match operation, line with
  | .editing, .progress j phase perMille =>
    if j = jobId then progress phase.order perMille else none
  | .editing, .succeeded j _ => terminal (j = jobId)
  | .editing, .failed j _ => terminal (j = jobId)
  | .editing, .cancelled j => terminal (j = jobId)
  | .smartEdit, .smartEditProgress j stage perMille =>
    if j = jobId then progress stage.order perMille else none
  | .smartEdit, .smartEditPrepared j _ =>
    if j = jobId ∧ (staging.map (·.2)) = some none then
      some (.job operation jobId last staging) else none
  | .smartEdit, .smartEditSucceeded j _ => terminal (j = jobId ∧ closes staging true)
  | .smartEdit, .smartEditFailed j _ => terminal (j = jobId ∧ closes staging false)
  | .smartEdit, .smartEditCancelled j => terminal (j = jobId ∧ closes staging false)
  | .smartEdit, .smartEditAborted j => terminal (j = jobId ∧ closes staging false)
  | _, _ => none

/-- What concerns no session: commands about the operation in hand, and the answer of a
session without one. -/
def Entry.ignored : Entry → Bool
  | .accepted command => !command.begins
  | .emitted (.workerCancelled _) => true
  | _ => false

def Session.step (s : Session) (e : Entry) : Option Session :=
  if e.ignored then some s
  else match s, e with
  | .idle, .accepted (.editingStart jobId _ _ _) => some (.job .editing jobId none none)
  | .idle, .accepted (.smartEditStart jobId) => some (.job .smartEdit jobId none none)
  | .idle, .accepted (.material command materialId) => some (.material command materialId)
  | .job operation jobId last staging, .emitted line =>
    Session.event operation jobId last staging line
  | .job .smartEdit jobId last none, .staged number =>
    some (.job .smartEdit jobId last (some (number, none)))
  | .job .smartEdit jobId last (some (staged, none)), .finalized number how =>
    if number = staged then some (.job .smartEdit jobId last (some (staged, some how))) else none
  | .material command materialId, .emitted (.material m answer) =>
    if m = materialId ∧ answer.command = command then some .idle else none
  | _, _ => none

/-- Where a log leads, `none` when it is not one of sessions. -/
def sessionOf (log : List Entry) : Option Session := log.foldlM Session.step .idle

theorem sessionOf_append (xs ys : List Entry) :
    sessionOf (xs ++ ys) = (sessionOf xs).bind fun s => ys.foldlM Session.step s := by
  unfold sessionOf
  rw [List.foldlM_append]
  rfl

theorem step_ignored {e : Entry} (h : e.ignored = true) (s : Session) : s.step e = some s := by
  unfold Session.step
  rw [if_pos h]

/-- What is ignored may stand anywhere. -/
theorem sessionOf_skip {e : Entry} (h : e.ignored = true) (xs ys : List Entry) :
    sessionOf (xs ++ e :: ys) = sessionOf (xs ++ ys) := by
  rw [sessionOf_append, sessionOf_append]
  congr 1
  funext s
  rw [List.foldlM_cons, step_ignored h]
  rfl

/-- A log of sessions is one up to any point. -/
theorem sessionOf_left {xs ys : List Entry} {s : Session} (h : sessionOf (xs ++ ys) = some s) :
    ∃ s', sessionOf xs = some s' := by
  rw [sessionOf_append] at h
  obtain ⟨s', hs', -⟩ := Option.bind_eq_some_iff.1 h
  exact ⟨s', hs'⟩

/-! ## What the worker has told -/

namespace Worker

/-- Lines produced and not yet printed. -/
def pending (W : Worker) : List Line := W.threads.flatMap (·.out) ++ W.loopOut.map (·.2)

/-- Where the log leads once these lines are printed. -/
def told (W : Worker) : Option Session := sessionOf (W.log ++ W.pending.map .emitted)

end Worker

namespace Worker

variable {W W' : Worker} {s : Session}

/-- Entries and lines added where nothing is pending are read from there. -/
theorem told_of_quiet {es : List Entry} (h : W.told = some s) (hp : W.pending = [])
    (hlog : W'.log = W.log ++ es) :
    W'.told = (es ++ W'.pending.map Entry.emitted).foldlM Session.step s := by
  unfold told at h ⊢
  rw [hp, List.map_nil, List.append_nil] at h
  rw [hlog, List.append_assoc, sessionOf_append, h]
  rfl

theorem told_of_read {es : List Entry} {s' : Session} (h : W.told = some s)
    (hp : W.pending = []) (hlog : W'.log = W.log ++ es)
    (hread : (es ++ W'.pending.map Entry.emitted).foldlM Session.step s = some s') :
    W'.told = some s' := (told_of_quiet h hp hlog).trans hread

theorem told_of_produced {s' : Session} (h : W.told = some s) (hp : W.pending = [])
    (hlog : W'.log = W.log)
    (hread : (W'.pending.map Entry.emitted).foldlM Session.step s = some s') :
    W'.told = some s' :=
  (told_of_quiet h hp (hlog.trans (List.append_nil _).symm)).trans hread

/-- Printing the first pending line tells nothing new. -/
theorem told_print (line : Line) (h : W.told = some s) (hlog : W'.log = W.log ++ [.emitted line])
    (hp : W.pending = line :: W'.pending) : W'.told = some s := by
  unfold told at h ⊢
  rw [hp, List.map_cons] at h
  rw [hlog, List.append_assoc, List.singleton_append, h]

/-- Neither does what is ignored. -/
theorem told_ignored {e : Entry} (h : W.told = some s) (he : e.ignored = true)
    (hlog : W'.log = W.log ++ [e]) (hp : W'.pending = W.pending) : W'.told = some s := by
  unfold told at h ⊢
  rw [hlog, hp, List.append_assoc, List.singleton_append, sessionOf_skip he, h]

theorem told_congr (h : W.told = some s) (hlog : W'.log = W.log) (hp : W'.pending = W.pending) :
    W'.told = some s := by
  unfold told at h ⊢
  rw [hlog, hp, h]

end Worker

/-! ## How the worker stands -/

/-- What the render thread of the job `a` finds at each of its points. -/
def RenderAt (a : ActiveJob) : RenderPc → Prop
  | .preparing => a.phase = none
  | .rendering => a.phase = some .preparing ∧ a.progressPerMille = 0
  | .executing | .publishing _ => a.phase = some .rendering ∧ a.progressPerMille = 800
  | .cancelling => a.cancelling = true
  | .failing _ => True

/-- What the smart edit thread of the job `a` finds; `staging` is what the log says. -/
def SmartEditAt (W : Worker) (a : ActiveJob) (number : Nat)
    (staging : Option (Nat × Option Finalization)) : SmartEditPc → Prop
  | .generating stage =>
    inOrder (a.smartStage.map (·.order)) a.progressPerMille stage.order stage.perMille = true ∧
      staging = none ∧ a.awaitingCommit = false ∧ W.smartStaged = none
  | .writing => a.smartStage = some .completed ∧ a.progressPerMille = 1000 ∧ staging = none ∧
      a.awaitingCommit = false ∧ W.smartStaged = none
  | .prepared job | .publishing job =>
    a.smartStage = some .completed ∧ a.progressPerMille = 1000 ∧ job.number = number ∧
      job.jobId = a.jobId ∧ staging = some (number, none) ∧ number ∉ W.finalized ∧
      a.awaitingCommit = false ∧ W.smartStaged = none
  | .aborting job => a.cancelling = true ∧ job.number = number ∧ staging = some (number, none) ∧
      number ∉ W.finalized ∧ a.awaitingCommit = false ∧ W.smartStaged = none
  | .cancelling _ => a.cancelling = true ∧ closes staging false = true ∧
      a.awaitingCommit = false ∧ W.smartStaged = none
  | .rejected prepared _ => prepared = none ∧ staging = none ∧ W.smartStaged = none
  | .recovering job => job.number = number ∧ job.jobId = a.jobId ∧
      staging = some (number, none) ∧ number ∉ W.finalized ∧ W.smartStaged = some job
  | .failing _ => closes staging false = true ∧ W.smartStaged = none

/-- Where the progress of a job stands. -/
def ActiveJob.last (a : ActiveJob) : Option (Nat × Int) :=
  match a.operation with
  | .editing => a.phase.map fun phase => (phase.order, a.progressPerMille)
  | .smartEdit => a.smartStage.map fun stage => (stage.order, a.progressPerMille)

/-- A cancellation was accepted for the job `a` itself. -/
structure Cancels (W : Worker) (a : ActiveJob) : Prop where
  command : ∀ p, W.command = some p → (∃ j, p.2 = .cancel j) ∧ a.cancelling = true
  requested : W.cancelRequested = true → a.cancelling = true

/-- How the worker stands at each point of a session. -/
inductive Stance (W : Worker) : Session → Prop where
  /-- No operation is active; the last one may have lines to print. -/
  | free (hactive : W.active = none) (hstaged : W.smartStaged = none)
      (htimer : W.smartCommitTimer = none)
      (hthreads : W.threads = [] ∨
        (∃ n out, out ≠ [] ∧ W.threads = [⟨n, out, none⟩]) ∧
          ∀ p ∈ W.loopOut, (Entry.emitted p.2).ignored = true)
      (hcommand : ∀ p, W.command = some p → p.2.begins = false) : Stance W .idle
  /-- An operation was accepted and its thread not yet started. -/
  | starting {n : Nat} {command : Command} {active : Active} {s : Session}
      (hcommand : W.command = some (n, command)) (hbegun : command.begun = some active)
      (hactive : W.active = some active)
      (hs : Session.step .idle (.accepted command) = some s) (hfresh : n ∉ W.finalized)
      (hstaged : W.smartStaged = none)
      (htimer : W.smartCommitTimer = none) (hthreads : W.threads = []) (hout : W.loopOut = []) :
      Stance W s
  | rendering {a : ActiveJob} {n : Nat} {out : List Line} {pc : RenderPc}
      (hactive : W.active = some (.job a)) (hoperation : a.operation = .editing)
      (hthreads : W.threads = [⟨n, out, some (.render a.jobId pc)⟩]) (hout : W.loopOut = [])
      (hat : RenderAt a pc) (hcancels : Cancels W a) (hstaged : W.smartStaged = none)
      (htimer : W.smartCommitTimer = none) : Stance W (.job .editing a.jobId a.last none)
  | generating {a : ActiveJob} {n : Nat} {out : List Line} {pc : SmartEditPc}
      {staging : Option (Nat × Option Finalization)} (hactive : W.active = some (.job a))
      (hoperation : a.operation = .smartEdit)
      (hthreads : W.threads = [⟨n, out, some (.smartEdit a.jobId pc)⟩]) (hout : W.loopOut = [])
      (hat : SmartEditAt W a n staging pc) (hfinalizing : a.finalizing = none)
      (hcancels : Cancels W a) (htimer : W.smartCommitTimer = none)
      (hfresh : staging = none → n ∉ W.finalized) :
      Stance W (.job .smartEdit a.jobId a.last staging)
  /-- A smart edit waits to be committed. -/
  | awaiting {a : ActiveJob} {job : Staged} (hactive : W.active = some (.job a))
      (hoperation : a.operation = .smartEdit) (hawaiting : a.awaitingCommit = true)
      (hdigest : a.resultDigest = some job.resultDigest) (hcancelling : a.cancelling = false)
      (hstaged : W.smartStaged = some job) (hjob : job.jobId = a.jobId)
      (htimer : W.smartCommitTimer = some a.jobId) (hfinalized : job.number ∉ W.finalized)
      (hout : W.loopOut = [])
      (hthreads : W.command = none ∧ a.finalizing = none ∧ (∃ n line, W.threads = [⟨n, [line], none⟩])
        ∨ W.command = none ∧ a.finalizing = none ∧ W.threads = [] ∨
        (∃ n action, W.command = some (n, .smartEditFinalize action a.jobId) ∧
          a.finalizing = some action) ∧ W.threads = []) :
      Stance W (.job .smartEdit a.jobId a.last (some (job.number, none)))
  | material {n : Nat} {command : MaterialCommand} {materialId : Uuid4}
      (hactive : W.active = some (.material materialId command))
      (hthreads : W.threads = [⟨n, [], some (.material command materialId)⟩])
      (hcommand : W.command = none) (hout : W.loopOut = []) (hstaged : W.smartStaged = none)
      (htimer : W.smartCommitTimer = none) : Stance W (.material command materialId)

/-- What a stance is about. -/
def Worker.posture (W : Worker) :=
  (W.active, W.command, W.cancelRequested, W.loopOut, W.threads, W.smartStaged,
    W.smartCommitTimer, W.finalized)

theorem Stance.congr {W W' : Worker} {s : Session} (h : Stance W s)
    (hsame : W'.posture = W.posture) : Stance W' s := by
  obtain ⟨h1, h2, h3, h4, h5, h6, h7, h8⟩ : W'.active = W.active ∧ W'.command = W.command ∧
      W'.cancelRequested = W.cancelRequested ∧ W'.loopOut = W.loopOut ∧
      W'.threads = W.threads ∧ W'.smartStaged = W.smartStaged ∧
      W'.smartCommitTimer = W.smartCommitTimer ∧ W'.finalized = W.finalized := by
    simpa [Worker.posture] using hsame
  cases h with
  | free hactive hstaged htimer hthreads hcommand =>
    exact .free (h1.trans hactive) (h6.trans hstaged) (h7.trans htimer)
      (by rw [h5, h4]; exact hthreads) (by rw [h2]; exact hcommand)
  | starting hcommand hbegun hactive hs hfresh hstaged htimer hthreads hout =>
    exact .starting (h2.trans hcommand) hbegun (h1.trans hactive) hs (by rw [h8]; exact hfresh)
      (h6.trans hstaged) (h7.trans htimer) (h5.trans hthreads) (h4.trans hout)
  | rendering hactive hoperation hthreads hout hat hcancels hstaged htimer =>
    exact .rendering (h1.trans hactive) hoperation (h5.trans hthreads) (h4.trans hout) hat
      ⟨by rw [h2]; exact hcancels.command, by rw [h3]; exact hcancels.requested⟩
      (h6.trans hstaged) (h7.trans htimer)
  | @generating a n out pc staging hactive hoperation hthreads hout hat hfin hcancels htimer hfresh =>
    refine .generating (h1.trans hactive) hoperation (h5.trans hthreads) (h4.trans hout) ?_ hfin
      ⟨by rw [h2]; exact hcancels.command, by rw [h3]; exact hcancels.requested⟩
      (h7.trans htimer) (by rw [h8]; exact hfresh)
    cases pc <;> simp only [SmartEditAt, h6, h8] at hat ⊢ <;> exact hat
  | awaiting hactive hoperation hawaiting hdigest hcancelling hstaged hjob htimer hfin hout
      hthreads =>
    exact .awaiting (h1.trans hactive) hoperation hawaiting hdigest hcancelling
      (h6.trans hstaged) hjob (h7.trans htimer) (by rw [h8]; exact hfin) (h4.trans hout)
      (by rw [h2, h5]; exact hthreads)
  | material hactive hthreads hcommand hout hstaged htimer =>
    exact .material (h1.trans hactive) (h5.trans hthreads) (h2.trans hcommand) (h4.trans hout)
      (h6.trans hstaged) (h7.trans htimer)

/-- Only `free` has no active operation. -/
theorem Stance.active {W : Worker} {s : Session} (h : Stance W s) (hs : W.active = none) :
    s = .idle ∧ W.smartStaged = none ∧ W.smartCommitTimer = none ∧
      (W.threads = [] ∨ (∃ n out, out ≠ [] ∧ W.threads = [⟨n, out, none⟩]) ∧
        ∀ p ∈ W.loopOut, (Entry.emitted p.2).ignored = true) := by
  cases h with
  | free hactive hstaged htimer hthreads hcommand => exact ⟨rfl, hstaged, htimer, hthreads⟩
  | starting hc hb hactive => rw [hs] at hactive; cases hactive
  | rendering hactive => rw [hs] at hactive; cases hactive
  | generating hactive => rw [hs] at hactive; cases hactive
  | awaiting hactive => rw [hs] at hactive; cases hactive
  | material hactive => rw [hs] at hactive; cases hactive

/-- Numbers in use are those of commands that were read. -/
structure Numbered (W : Worker) : Prop where
  finalized : ∀ n ∈ W.finalized, n < W.read
  threads : ∀ t ∈ W.threads, t.number < W.read
  staged : ∀ job, W.smartStaged = some job → job.number < W.read
  command : ∀ p, W.command = some p → p.1 < W.read

/-- The worker keeps to its sessions. -/
structure Sound (W : Worker) : Prop where
  numbered : Numbered W
  stance : ∃ s, W.told = some s ∧ Stance W s

/-- No command but a cancellation is accepted, and the commit timer does not fire, while a
thread of the worker is at work; and the directory of a staged job can be removed. -/
def Unhurried : Act → Worker → Prop
  | .take, W => ∀ command stdin active, W.stdin = command :: stdin →
      acceptCommand W.active command = some active → (∀ j, command ≠ .cancel j) → W.threads = []
  | .dispatch _ removed, _ => removed = true
  | .thread _ (.removes removed), _ => removed = true
  | .expire removed, W => W.threads = [] ∧ removed = true
  | _, _ => True

variable {W W' : Worker}

/-! ## The loop -/

theorem take_cases (h : W.take = some W') : W.command = none ∧ W.loopOut = [] ∧
    ∃ command stdin, W.stdin = command :: stdin ∧
      ((∃ active, acceptCommand W.active command = some active ∧
        W' = { W with stdin := stdin, read := W.read + 1, active := some active,
                      command := some (W.read, command),
                      log := W.log ++ [.accepted command] }) ∨
      (acceptCommand W.active command = none ∧
        W' = { W with stdin := stdin, read := W.read + 1,
                      loopOut := if W.active = none then Worker.legacyCancel W.read command
                                 else [] })) := by
  unfold Worker.take at h
  split at h
  · rename_i command stdin hcommand hout hstdin
    refine ⟨hcommand, hout, command, stdin, hstdin, ?_⟩
    split at h
    · rename_i active haccept
      exact .inl ⟨active, haccept, (Option.some.inj h).symm⟩
    · rename_i haccept
      exact .inr ⟨haccept, (Option.some.inj h).symm⟩
  · cases h

theorem legacyCancel_ignored (n : Nat) (command : Command) :
    ∀ p ∈ Worker.legacyCancel n command, (Entry.emitted p.2).ignored = true := by
  intro p hp
  cases command with
  | cancel j =>
    rw [List.mem_singleton.1 hp]
    rfl
  | _ => cases hp

/-- The session an accepted command opens. -/
theorem step_begun {command : Command} {active : Active} (h : command.begun = some active) :
    ∃ s, Session.step .idle (.accepted command) = some s := by
  cases command with
  | editingStart j p l r => exact ⟨_, rfl⟩
  | smartEditStart j => exact ⟨_, rfl⟩
  | material c m => exact ⟨_, rfl⟩
  | _ => cases h

theorem Numbered.read {command : Option (Nat × Command)} (h : Numbered W)
    (hfinalized : W'.finalized = W.finalized) (hthreads : W'.threads = W.threads)
    (hstaged : W'.smartStaged = W.smartStaged) (hread : W'.read = W.read + 1)
    (hcommand : W'.command = command) (hnew : ∀ p, command = some p → p.1 ≤ W.read) :
    Numbered W' := by
  constructor
  · intro n hn
    have := h.finalized n (hfinalized ▸ hn)
    omega
  · intro t ht
    have := h.threads t (hthreads ▸ ht)
    omega
  · intro job hjob
    have := h.staged job (hstaged ▸ hjob)
    omega
  · intro p hp
    have := hnew p (hcommand ▸ hp)
    omega

theorem take_sound (hW : Sound W) (h : W.take = some W') (hH : Unhurried .take W) :
    Sound W' := by
  obtain ⟨hcommand, hout, command, stdin, hstdin, hcases⟩ := take_cases h
  obtain ⟨s, htold, hstance⟩ := hW.stance
  have hquiet := hH command stdin
  obtain ⟨active, haccept, rfl⟩ | ⟨haccept, rfl⟩ := hcases
  · refine ⟨hW.numbered.read rfl rfl rfl rfl rfl fun p hp => ?_, ?_⟩
    · cases hp
      exact Nat.le_refl _
    have hignored (hbegins : command.begins = false) : (Entry.accepted command).ignored = true := by
      simp [Entry.ignored, hbegins]
    cases hstance with
    | free hactive hstaged htimer hthreads _ =>
      rw [hactive] at haccept
      obtain ⟨hbegins, hbegun⟩ := accept_idle haccept
      have hnone : W.threads = [] := by
        refine hquiet active hstdin (hactive ▸ haccept) fun j hj => ?_
        rw [hj] at hbegins
        cases hbegins
      obtain ⟨s', hs'⟩ := step_begun hbegun
      refine ⟨s', ?_, .starting rfl hbegun rfl hs' ?_ hstaged htimer hnone hout⟩
      · have hpending : W.pending = [] := by simp [Worker.pending, hnone, hout]
        rw [Worker.told_of_quiet htold hpending rfl]
        simp [Worker.pending, hnone, hout, hs']
      · intro hn
        exact absurd (hW.numbered.finalized _ hn) (Nat.lt_irrefl _)
    | starting hc => rw [hcommand] at hc; cases hc
    | @rendering a n out pc hactive hoperation hthreads _ hat hcancels hstaged htimer =>
      rw [hactive] at haccept
      rcases accept_job haccept with ⟨rfl, -, -, rfl⟩ | ⟨action, d, -, hsmart, -⟩
      · refine ⟨_, Worker.told_ignored htold (hignored rfl) rfl rfl,
          .rendering (a := { a with cancelling := true }) rfl hoperation hthreads hout ?_ ?_
            hstaged htimer⟩
        · cases pc <;> first | exact hat | rfl
        · exact ⟨fun p hp => by cases hp; exact ⟨⟨_, rfl⟩, rfl⟩, fun _ => rfl⟩
      · rw [hoperation] at hsmart
        cases hsmart
    | @generating a n out pc staging hactive hoperation hthreads _ hat hfin hcancels htimer hfresh =>
      have haccept' := haccept
      rw [hactive] at haccept'
      rcases accept_job haccept' with ⟨rfl, -, -, rfl⟩ | ⟨action, d, rfl, -⟩
      · refine ⟨_, Worker.told_ignored htold (hignored rfl) rfl rfl,
          .generating (a := { a with cancelling := true }) rfl hoperation hthreads hout ?_ hfin ?_
            htimer hfresh⟩
        · cases pc <;> simp only [SmartEditAt] at hat ⊢ <;> grind
        · exact ⟨fun p hp => by cases hp; exact ⟨⟨_, rfl⟩, rfl⟩, fun _ => rfl⟩
      · have hnone := hquiet active hstdin haccept fun j hj => nomatch hj
        rw [hthreads] at hnone
        cases hnone
    | @awaiting a job hactive hoperation hawaiting hdigest hcancelling hstaged hjob htimer hfin _
        hthreads =>
      have haccept' := haccept
      rw [hactive] at haccept'
      rcases accept_job haccept' with ⟨-, -, hno, -⟩ | ⟨action, d, rfl, -, -, -, -, rfl⟩
      · rw [hawaiting] at hno
        cases hno
      · have hnone := hquiet _ hstdin haccept fun j hj => nomatch hj
        exact ⟨_, Worker.told_ignored htold (hignored rfl) rfl rfl,
          .awaiting (a := { a with finalizing := some action }) rfl hoperation hawaiting hdigest
            hcancelling hstaged hjob htimer hfin hout (.inr (.inr ⟨⟨_, action, rfl, rfl⟩, hnone⟩))⟩
    | material hactive =>
      rw [hactive, accept_material] at haccept
      cases haccept
  · refine ⟨hW.numbered.read rfl rfl rfl rfl hcommand (fun p hp => nomatch hp), ?_⟩
    by_cases hnone : W.active = none
    · obtain ⟨rfl, hstaged, htimer, hthreads⟩ := hstance.active hnone
      rw [if_pos hnone]
      have hignored := legacyCancel_ignored W.read command
      refine ⟨.idle, ?_, .free hnone hstaged htimer (hthreads.imp id fun h => ⟨h.1, hignored⟩) ?_⟩
      · unfold Worker.told at htold ⊢
        unfold Worker.pending at htold ⊢
        rw [hout] at htold
        cases command with
        | cancel j =>
          simp only [Worker.legacyCancel, List.map_append, List.map_cons, List.map_nil,
            List.append_nil] at htold ⊢
          rw [← List.append_assoc, sessionOf_skip rfl, List.append_nil, htold]
        | _ => exact htold
      · rw [hcommand]
        exact fun p hp => nomatch hp
    · rw [if_neg hnone]
      exact ⟨s, Worker.told_congr htold rfl (by simp [Worker.pending, hout]),
        hstance.congr (by simp [Worker.posture, hout])⟩

section Finalize
variable {a : ActiveJob} {job : Staged} {n : Nat}

/-- What an abort does to a staged job. -/
theorem finalize_abort (hactive : W.active = some (.job a)) (hoperation : a.operation = .smartEdit)
    (hfinalizing : a.finalizing = some .abort) (hstaged : W.smartStaged = some job)
    (hjob : job.jobId = a.jobId) (hfinalized : job.number ∉ W.finalized) (committed : Bool) :
    W.finalizeSmartEdit n .abort a.jobId committed true =
      { W with
        smartCommitTimer := none, smartStaged := none, active := none
        finalized := job.number :: W.finalized
        log := W.log ++ [.finalized job.number .aborted]
        loopOut := [(n, .smartEditAborted a.jobId)] } := by
  simp [Worker.finalizeSmartEdit, hstaged, hjob, Worker.abortSmartEditJob, hfinalized,
    Worker.finalize, hactive, smartEditAborted_job hoperation hfinalizing]

/-- What a commit does to a staged job: it commits it, or aborts it and reports the failure. -/
theorem finalize_commit (hactive : W.active = some (.job a))
    (hoperation : a.operation = .smartEdit) (hfinalizing : a.finalizing = some .commit)
    (hdigest : a.resultDigest = some job.resultDigest) (hstaged : W.smartStaged = some job)
    (hjob : job.jobId = a.jobId) (hfinalized : job.number ∉ W.finalized) (committed : Bool) :
    W.finalizeSmartEdit n .commit a.jobId committed true =
      { W with
        smartCommitTimer := none, smartStaged := none, active := none
        finalized := job.number :: W.finalized
        log := W.log ++ [.finalized job.number (if committed then .committed else .aborted)]
        loopOut := [(n, if committed then .smartEditSucceeded a.jobId job.resultDigest
                        else .smartEditFailed a.jobId .commitFailed)] } := by
  cases committed <;>
    simp [Worker.finalizeSmartEdit, hstaged, hjob, Worker.commitSmartEditJob, hfinalized,
      Worker.finalize, hactive, smartEditSucceeded_job hoperation hfinalizing hdigest,
      Worker.abandon, Worker.abortSmartEditJob, Worker.report, smartEditFailed_job hoperation]

end Finalize

theorem Numbered.dispatched (h : Numbered W) (hread : W'.read = W.read)
    (hcommand : W'.command = none) (hfinalized : ∀ n ∈ W'.finalized, n < W.read)
    (hthreads : ∀ t ∈ W'.threads, t.number < W.read)
    (hstaged : ∀ job, W'.smartStaged = some job → W.smartStaged = some job) : Numbered W' where
  finalized := by rw [hread]; exact hfinalized
  threads := by rw [hread]; exact hthreads
  staged job hjob := by rw [hread]; exact h.staged job (hstaged job hjob)
  command p hp := by rw [hcommand] at hp; cases hp

theorem dispatch_sound (hW : Sound W) {committed : Bool}
    (h : W.act (.dispatch committed true) = some W') : Sound W' := by
  obtain ⟨hnumbered, s, htold, hstance⟩ := hW
  simp only [Worker.act] at h
  split at h
  rotate_left
  · cases h
  rename_i n command hcommand
  cases h
  cases hstance with
  | free hactive hstaged htimer hthreads hbegins =>
    have hno := hbegins _ hcommand
    cases command with
    | editingStart | smartEditStart | material => cases hno
    | cancel j =>
      exact ⟨hnumbered.dispatched rfl rfl hnumbered.finalized hnumbered.threads fun _ => id,
        .idle, Worker.told_congr htold rfl rfl,
        .free hactive hstaged htimer hthreads fun p hp => nomatch hp⟩
    | smartEditFinalize action j =>
      simp only [Worker.dispatch, Worker.finalizeSmartEdit, hstaged]
      exact ⟨hnumbered.dispatched rfl rfl hnumbered.finalized hnumbered.threads
          (fun _ h => nomatch h),
        .idle, Worker.told_congr htold rfl rfl,
        .free hactive rfl htimer hthreads fun p hp => nomatch hp⟩
    | other =>
      exact ⟨hnumbered.dispatched rfl rfl hnumbered.finalized hnumbered.threads fun _ => id,
        .idle, Worker.told_congr htold rfl rfl,
        .free hactive hstaged htimer hthreads fun p hp => nomatch hp⟩
  | @starting _ _ active _ hc hbegun hactive hs hfresh hstaged htimer hthreads hout =>
    rw [hcommand] at hc
    cases hc
    have hnew : ∀ t : Thread, ∀ u ∈ W.threads ++ [{ t with number := n }], u.number < W.read := by
      intro t u hu
      rw [hthreads, List.nil_append, List.mem_singleton] at hu
      rw [hu]
      exact hnumbered.command _ hcommand
    cases command with
    | editingStart j p l r =>
      cases hbegun
      cases hs
      have hone : W.threads ++ [⟨n, [], some (.render j .preparing)⟩] =
          [⟨n, [], some (.render j .preparing)⟩] := by rw [hthreads]; rfl
      refine ⟨hnumbered.dispatched rfl rfl hnumbered.finalized (hnew ⟨0, [], _⟩) fun _ => id, _,
        Worker.told_congr htold rfl ?_, .rendering (a := { jobId := j }) hactive rfl hone hout rfl
          ⟨(fun p hp => nomatch hp), fun h => nomatch h⟩ hstaged htimer⟩
      simp [Worker.pending, Worker.dispatch, hthreads, hout]
    | smartEditStart j =>
      cases hbegun
      cases hs
      have hone : W.threads ++ [⟨n, [], some (.smartEdit j (.generating .preparing))⟩] =
          [⟨n, [], some (.smartEdit j (.generating .preparing))⟩] := by rw [hthreads]; rfl
      refine ⟨hnumbered.dispatched rfl rfl hnumbered.finalized (hnew ⟨0, [], _⟩) fun _ => id, _,
        Worker.told_congr htold rfl ?_,
        .generating (a := { jobId := j, operation := .smartEdit }) hactive rfl hone hout
          ⟨rfl, rfl, rfl, hstaged⟩ rfl ⟨(fun p hp => nomatch hp), fun h => nomatch h⟩ htimer
          fun _ => hfresh⟩
      simp [Worker.pending, Worker.dispatch, hthreads, hout]
    | material c m =>
      cases hbegun
      cases hs
      refine ⟨hnumbered.dispatched rfl rfl hnumbered.finalized (hnew ⟨0, [], _⟩) fun _ => id, _,
        Worker.told_congr htold rfl ?_, .material (n := n) hactive ?_ rfl hout hstaged htimer⟩
      · simp [Worker.pending, Worker.dispatch, hthreads, hout]
      · simp [Worker.dispatch, hthreads]
    | _ => cases hbegun
  | @rendering a n out pc hactive hoperation hthreads hout hat hcancels hstaged htimer =>
    obtain ⟨⟨j, rfl⟩, hcancelling⟩ := hcancels.command _ hcommand
    exact ⟨hnumbered.dispatched rfl rfl hnumbered.finalized hnumbered.threads fun _ => id, _,
      Worker.told_congr htold rfl rfl,
      .rendering hactive hoperation hthreads hout hat
        ⟨(fun p hp => nomatch hp), fun _ => hcancelling⟩ hstaged htimer⟩
  | @generating a n out pc staging hactive hoperation hthreads hout hat hfin hcancels htimer hfresh =>
    obtain ⟨⟨j, rfl⟩, hcancelling⟩ := hcancels.command _ hcommand
    refine ⟨hnumbered.dispatched rfl rfl hnumbered.finalized hnumbered.threads fun _ => id, _,
      Worker.told_congr htold rfl rfl,
      .generating hactive hoperation hthreads hout ?_ hfin
        ⟨(fun p hp => nomatch hp), fun _ => hcancelling⟩ htimer hfresh⟩
    cases pc <;> exact hat
  | @awaiting a job hactive hoperation hawaiting hdigest hcancelling hstaged hjob htimer
      hfinalized hout hthreads =>
    have hcase : ∃ n action, W.command = some (n, .smartEditFinalize action a.jobId) ∧
        a.finalizing = some action ∧ W.threads = [] := by
      rcases hthreads with ⟨hc, -⟩ | ⟨hc, -⟩ | ⟨⟨n, action, hc, hfin⟩, hnone⟩
      · rw [hcommand] at hc; cases hc
      · rw [hcommand] at hc; cases hc
      · exact ⟨n, action, hc, hfin, hnone⟩
    obtain ⟨m, action, hc, hfin, hnone⟩ := hcase
    rw [hcommand] at hc
    cases hc
    have hless : ∀ m ∈ job.number :: W.finalized, m < W.read := by
      intro m hm
      rcases List.mem_cons.1 hm with rfl | hm
      · exact hnumbered.staged _ hstaged
      · exact hnumbered.finalized m hm
    have hpending : W.pending = [] := by simp [Worker.pending, hnone, hout]
    cases action with
    | abort =>
      simp only [Worker.dispatch]
      rw [finalize_abort (W := { W with command := none }) hactive hoperation hfin hstaged hjob
        hfinalized]
      refine ⟨hnumbered.dispatched rfl rfl hless hnumbered.threads (fun _ h => nomatch h), .idle,
        ?_, .free rfl rfl rfl (.inl hnone) fun p hp => nomatch hp⟩
      rw [Worker.told_of_quiet htold hpending rfl]
      simp [Worker.pending, hnone, Session.step, Entry.ignored, Session.event, closes]
    | commit =>
      simp only [Worker.dispatch]
      rw [finalize_commit (W := { W with command := none }) hactive hoperation hfin hdigest hstaged
        hjob hfinalized]
      refine ⟨hnumbered.dispatched rfl rfl hless hnumbered.threads (fun _ h => nomatch h), .idle,
        ?_, .free rfl rfl rfl (.inl hnone) fun p hp => nomatch hp⟩
      rw [Worker.told_of_quiet htold hpending rfl]
      cases committed <;>
        simp [Worker.pending, hnone, Session.step, Entry.ignored, Session.event, closes]
  | material hactive hthreads hc =>
    rw [hcommand] at hc
    cases hc

/-! ## Printing -/

theorem loopPrint_sound (hW : Sound W) (h : W.act .loopPrint = some W') : Sound W' := by
  obtain ⟨hnumbered, s, htold, hstance⟩ := hW
  simp only [Worker.act] at h
  split at h
  rotate_left
  · cases h
  rename_i n line rest hout
  cases h
  refine ⟨⟨hnumbered.finalized, hnumbered.threads, hnumbered.staged, hnumbered.command⟩, s, ?_⟩
  cases hstance with
  | free hactive hstaged htimer hthreads hcommand =>
    rcases hthreads with hnone | ⟨hone, hignored⟩
    · refine ⟨Worker.told_print line htold rfl ?_,
        .free hactive hstaged htimer (.inl hnone) hcommand⟩
      simp [Worker.pending, Worker.print, hnone, hout]
    · refine ⟨?_, .free hactive hstaged htimer (.inr ⟨hone, fun p hp => ?_⟩) hcommand⟩
      · have hline := hignored (n, line) (by simp [hout])
        unfold Worker.told at htold ⊢
        simp only [Worker.pending, Worker.print, hout, List.map_append, List.map_cons] at htold ⊢
        rw [← List.append_assoc, sessionOf_skip hline, List.append_assoc] at htold
        rw [List.append_assoc, List.singleton_append, sessionOf_skip hline, htold]
      · exact hignored p (by rw [hout]; exact List.mem_cons_of_mem _ hp)
  | starting _ _ _ _ _ _ _ _ hno => rw [hout] at hno; cases hno
  | rendering _ _ _ hno => rw [hout] at hno; cases hno
  | generating _ _ _ hno => rw [hout] at hno; cases hno
  | awaiting _ _ _ _ _ _ _ _ _ hno => rw [hout] at hno; cases hno
  | material _ _ _ hno => rw [hout] at hno; cases hno

section OneThread
variable {t t' : Thread}

theorem settle_threads (h : W.threads = [t]) :
    (W.settle 0 t').threads = if t'.out = [] ∧ t'.task = none then [] else [t'] := by
  simp [Worker.settle, h]

theorem settle_pending (h : W.threads = [t]) :
    (W.settle 0 t').pending = t'.out ++ W.loopOut.map (·.2) := by
  unfold Worker.pending
  rw [settle_threads h]
  split
  · rename_i hover
    simp [hover.1, Worker.settle]
  · simp [Worker.settle]

theorem only_thread {i : Nat} (h : W.threads = [t]) (hi : W.threads[i]? = some t') :
    i = 0 ∧ t' = t := by
  rw [h] at hi
  cases i with
  | zero => exact ⟨rfl, (Option.some.inj hi).symm⟩
  | succ i => cases hi

theorem Numbered.settle {W₁ : Worker} (h : Numbered W) (ht : W.threads = [t])
    (hread : W₁.read = W.read) (hthreads : W₁.threads = W.threads)
    (hstaged : ∀ job, W₁.smartStaged = some job → job.number < W.read)
    (hcommand : W₁.command = W.command) (hfinalized : ∀ n ∈ W₁.finalized, n < W.read)
    (hnumber : t'.number = t.number) : Numbered (W₁.settle 0 t') := by
  have hone : (W₁.settle 0 t').threads = if t'.out = [] ∧ t'.task = none then [] else [t'] :=
    settle_threads (hthreads.trans ht)
  refine ⟨?_, ?_, ?_, ?_⟩
  · show ∀ n ∈ W₁.finalized, n < W₁.read
    rw [hread]
    exact hfinalized
  · intro u hu
    show u.number < W₁.read
    rw [hone] at hu
    split at hu
    · cases hu
    · rw [List.mem_singleton.1 hu, hnumber, hread]
      exact h.threads t (by rw [ht]; exact List.mem_singleton.2 rfl)
  · show ∀ job, W₁.smartStaged = some job → job.number < W₁.read
    rw [hread]
    exact hstaged
  · show ∀ p, W₁.command = some p → p.1 < W₁.read
    rw [hread, hcommand]
    exact h.command

end OneThread

theorem print_sound (hW : Sound W) {i : Nat} (h : W.act (.print i) = some W') : Sound W' := by
  obtain ⟨hnumbered, s, htold, hstance⟩ := hW
  simp only [Worker.act] at h
  split at h
  rotate_left
  · cases h
  rename_i t hi
  split at h
  rotate_left
  · cases h
  rename_i line out hline
  cases h
  have hone (u : Thread) (hu : W.threads = [u]) : i = 0 ∧ t = u := only_thread hu hi
  have hsettled (u : Thread) (hu : W.threads = [u]) (hiu : i = 0 ∧ t = u) :
      Numbered ((W.print t.number line).settle i { t with out := out }) ∧
        ((W.print t.number line).settle i { t with out := out }).told = some s := by
    obtain ⟨rfl, rfl⟩ := hiu
    refine ⟨hnumbered.settle hu rfl rfl hnumbered.staged rfl hnumbered.finalized rfl,
      Worker.told_print line htold rfl ?_⟩
    rw [settle_pending (W := W.print t.number line) hu]
    simp [Worker.pending, hu, hline, Worker.print]
  cases hstance with
  | free hactive hstaged htimer hthreads hcommand =>
    rcases hthreads with hnone | ⟨⟨n, lines, -, hu⟩, hignored⟩
    · rw [hnone] at hi
      cases hi
    · obtain ⟨hn, ht⟩ := hsettled _ hu (hone _ hu)
      obtain ⟨rfl, rfl⟩ := hone _ hu
      refine ⟨hn, _, ht, .free hactive hstaged htimer ?_ hcommand⟩
      rw [settle_threads (W := W.print n line) hu]
      cases out with
      | nil => exact .inl rfl
      | cons l ls => exact .inr ⟨⟨n, l :: ls, List.cons_ne_nil _ _, rfl⟩, hignored⟩
  | starting _ _ _ _ _ _ _ hnone =>
    rw [hnone] at hi
    cases hi
  | @rendering a n lines pc hactive hoperation hu hout hat hcancels hstaged htimer =>
    obtain ⟨hn, ht⟩ := hsettled _ hu (hone _ hu)
    obtain ⟨rfl, rfl⟩ := hone _ hu
    have hrest : ((W.print n line).settle 0 ⟨n, out, some (.render a.jobId pc)⟩).threads =
        [⟨n, out, some (.render a.jobId pc)⟩] := by
      rw [settle_threads (W := W.print n line) hu, if_neg (fun h => nomatch h.2)]
    exact ⟨hn, _, ht, .rendering hactive hoperation hrest hout hat
      ⟨hcancels.command, hcancels.requested⟩ hstaged htimer⟩
  | @generating a n lines pc staging hactive hoperation hu hout hat hfin hcancels htimer hfresh =>
    obtain ⟨hn, ht⟩ := hsettled _ hu (hone _ hu)
    obtain ⟨rfl, rfl⟩ := hone _ hu
    have hrest : ((W.print n line).settle 0 ⟨n, out, some (.smartEdit a.jobId pc)⟩).threads =
        [⟨n, out, some (.smartEdit a.jobId pc)⟩] := by
      rw [settle_threads (W := W.print n line) hu, if_neg (fun h => nomatch h.2)]
    refine ⟨hn, _, ht, .generating hactive hoperation hrest hout ?_ hfin
      ⟨hcancels.command, hcancels.requested⟩ htimer hfresh⟩
    cases pc <;> exact hat
  | @awaiting a job hactive hoperation hawaiting hdigest hcancelling hstaged hjob htimer
      hfinalized hout hthreads =>
    rcases hthreads with ⟨hcommand, hfin, n, l, hu⟩ | ⟨-, -, hnone⟩ | ⟨-, hnone⟩
    · obtain ⟨hn, ht⟩ := hsettled _ hu (hone _ hu)
      obtain ⟨rfl, rfl⟩ := hone _ hu
      cases hline
      refine ⟨hn, _, ht, .awaiting hactive hoperation hawaiting hdigest hcancelling hstaged hjob
        htimer hfinalized hout (.inr (.inl ⟨hcommand, hfin, ?_⟩))⟩
      rw [settle_threads (W := W.print n line) hu]
      exact if_pos ⟨rfl, rfl⟩
    · rw [hnone] at hi
      cases hi
    · rw [hnone] at hi
      cases hi
  | material _ hu =>
    obtain ⟨rfl, rfl⟩ := hone _ hu
    cases hline

/-! ## The commit timer -/

/-- What the timer does to a staged job. -/
theorem expire_staged {a : ActiveJob} {job : Staged} (hactive : W.active = some (.job a))
    (hoperation : a.operation = .smartEdit) (hstaged : W.smartStaged = some job)
    (hjob : job.jobId = a.jobId) (htimer : W.smartCommitTimer = some a.jobId)
    (hfinalized : job.number ∉ W.finalized) : W.expireSmartEdit true =
      some { W with
        smartCommitTimer := none, smartStaged := none, active := none
        finalized := job.number :: W.finalized
        log := W.log ++ [.finalized job.number .aborted]
        threads := W.threads ++ [⟨job.number, [.smartEditFailed a.jobId .commitFailed], none⟩] } := by
  simp [Worker.expireSmartEdit, htimer, hstaged, hjob, Worker.abortSmartEditJob, hfinalized,
    Worker.finalize, Worker.report, hactive, smartEditFailed_job hoperation]

theorem expire_sound (hW : Sound W) (h : W.act (.expire true) = some W')
    (hnone : W.threads = []) : Sound W' := by
  obtain ⟨hnumbered, s, htold, hstance⟩ := hW
  have htimer : ∃ j, W.smartCommitTimer = some j := by
    cases htimer : W.smartCommitTimer with
    | none => simp [Worker.act, Worker.expireSmartEdit, htimer] at h
    | some j => exact ⟨j, rfl⟩
  obtain ⟨j, hj⟩ := htimer
  cases hstance with
  | free _ _ hno => rw [hj] at hno; cases hno
  | starting _ _ _ _ _ _ hno => rw [hj] at hno; cases hno
  | rendering _ _ _ _ _ _ _ hno => rw [hj] at hno; cases hno
  | generating _ _ _ _ _ _ _ hno => rw [hj] at hno; cases hno
  | material _ _ _ _ _ hno => rw [hj] at hno; cases hno
  | @awaiting a job hactive hoperation hawaiting hdigest hcancelling hstaged hjob htimer
      hfinalized hout hthreads =>
    simp only [Worker.act] at h
    rw [expire_staged hactive hoperation hstaged hjob htimer hfinalized] at h
    cases h
    have hpending : W.pending = [] := by simp [Worker.pending, hnone, hout]
    refine ⟨⟨?_, ?_, (fun _ h => nomatch h), hnumbered.command⟩, .idle, ?_,
      .free rfl rfl rfl (.inr ⟨⟨job.number, [.smartEditFailed a.jobId .commitFailed],
        List.cons_ne_nil _ _, ?_⟩, ?_⟩) ?_⟩
    · intro m hm
      rcases List.mem_cons.1 hm with rfl | hm
      · exact hnumbered.staged _ hstaged
      · exact hnumbered.finalized m hm
    · intro t ht
      rw [hnone, List.nil_append, List.mem_singleton] at ht
      rw [ht]
      exact hnumbered.staged _ hstaged
    · rw [Worker.told_of_quiet htold hpending rfl]
      simp [Worker.pending, hnone, hout, Session.step, Entry.ignored, Session.event, closes]
    · rw [hnone]
      rfl
    · rw [hout]
      exact fun p hp => nomatch hp
    · intro p hp
      rcases hthreads with ⟨hc, -⟩ | ⟨hc, -⟩ | ⟨⟨n, action, hc, -⟩, -⟩
      · rw [hc] at hp; cases hp
      · rw [hc] at hp; cases hp
      · rw [hc] at hp
        cases hp
        rfl

/-! ## The threads -/

section Reading
variable {a : ActiveJob} {staging : Option (Nat × Option Finalization)}

theorem last_editing (h : a.operation = .editing) (order n : Nat) :
    inOrder (a.last.map (·.1)) ((a.last.map (·.2)).getD (-1)) order n =
      inOrder (a.phase.map (·.order)) a.progressPerMille order n := by
  unfold ActiveJob.last
  rw [h]
  cases a.phase <;> rfl

theorem last_smartEdit (h : a.operation = .smartEdit) (order n : Nat) :
    inOrder (a.last.map (·.1)) ((a.last.map (·.2)).getD (-1)) order n =
      inOrder (a.smartStage.map (·.order)) a.progressPerMille order n := by
  unfold ActiveJob.last
  rw [h]
  cases a.smartStage <;> rfl

/-- The automaton reads the progress the protocol lets through. -/
theorem step_progress {phase : LocalEditingWorkerPhase} {n : Nat} (h : a.operation = .editing)
    (horder : inOrder (a.phase.map (·.order)) a.progressPerMille phase.order n = true) :
    Session.step (.job .editing a.jobId a.last none) (.emitted (.progress a.jobId phase n)) =
      some (.job .editing a.jobId
        { a with phase := some phase, progressPerMille := n : ActiveJob }.last none) := by
  have hin := last_editing h phase.order n
  rw [horder] at hin
  simp only [Session.step, Entry.ignored, Bool.false_eq_true, if_false, Session.event, if_true]
  rw [if_pos hin]
  simp [ActiveJob.last, h]

theorem step_smartEditProgress {stage : SmartEditGenerationStage} {n : Nat}
    (h : a.operation = .smartEdit)
    (horder : inOrder (a.smartStage.map (·.order)) a.progressPerMille stage.order n = true) :
    Session.step (.job .smartEdit a.jobId a.last staging)
        (.emitted (.smartEditProgress a.jobId stage n)) =
      some (.job .smartEdit a.jobId
        { a with smartStage := some stage, progressPerMille := n : ActiveJob }.last staging) := by
  have hin := last_smartEdit h stage.order n
  rw [horder] at hin
  simp only [Session.step, Entry.ignored, Bool.false_eq_true, if_false, Session.event, if_true]
  rw [if_pos hin]
  simp [ActiveJob.last, h]

end Reading

/-- The stages follow one another in order. -/
theorem inOrder_next {stage stage' : SmartEditGenerationStage} {voiced : Bool}
    (h : stage.next voiced = some stage') :
    inOrder (some stage.order) stage.perMille stage'.order stage'.perMille = true := by
  cases stage <;> cases voiced <;> cases h <;> rfl

theorem perMille_le (stage : SmartEditGenerationStage) : stage.perMille ≤ 1000 := by
  cases stage <;> decide

section Thread
variable {a : ActiveJob} {n : Nat} {s : Session} {task : Option Task} {lines : List Line}

/-- The thread has produced the terminal event. -/
theorem over_sound (hnumbered : Numbered W) (htold : W.told = some s)
    (hthreads : W.threads = [⟨n, [], task⟩]) (hout : W.loopOut = [])
    (hstaged : W.smartStaged = none) (htimer : W.smartCommitTimer = none)
    (hcommand : ∀ p, W.command = some p → p.2.begins = false) (hlines : lines ≠ [])
    (hread : (lines.map Entry.emitted).foldlM Session.step s = some .idle) :
    Sound (({ W with active := none } : Worker).settle 0 ⟨n, lines, none⟩) := by
  have hpending : W.pending = [] := by simp [Worker.pending, hthreads, hout]
  refine ⟨hnumbered.settle hthreads rfl rfl hnumbered.staged rfl hnumbered.finalized rfl, .idle,
    ?_, .free rfl hstaged htimer (.inr ⟨⟨n, lines, hlines, ?_⟩, ?_⟩) hcommand⟩
  · refine Worker.told_of_produced htold hpending rfl ?_
    rw [settle_pending (W := { W with active := none }) hthreads]
    simpa [hout] using hread
  · rw [settle_threads (W := { W with active := none }) hthreads, if_neg (fun h => hlines h.1)]
  · show ∀ p ∈ W.loopOut, _
    rw [hout]
    exact fun p hp => nomatch hp

theorem Cancels.begins (h : Cancels W a) : ∀ p, W.command = some p → p.2.begins = false := by
  intro p hp
  obtain ⟨⟨j, hj⟩, -⟩ := h.command p hp
  rw [hj]
  rfl

variable {a' : ActiveJob}

/-- The render thread goes on. -/
theorem rendering_sound {pc : RenderPc} (hnumbered : Numbered W)
    (htold : W.told = some (.job .editing a.jobId a.last none))
    (hthreads : W.threads = [⟨n, [], task⟩]) (hout : W.loopOut = [])
    (hstaged : W.smartStaged = none) (htimer : W.smartCommitTimer = none) (hcancels : Cancels W a)
    (hjob : a'.jobId = a.jobId) (hoperation : a'.operation = .editing)
    (hcancelling : a'.cancelling = a.cancelling) (hat : RenderAt a' pc)
    (hread : (lines.map Entry.emitted).foldlM Session.step (.job .editing a.jobId a.last none) =
      some (.job .editing a'.jobId a'.last none)) :
    Sound (({ W with active := some (.job a') } : Worker).settle 0
      ⟨n, lines, some (.render a.jobId pc)⟩) := by
  have hpending : W.pending = [] := by simp [Worker.pending, hthreads, hout]
  have hone : (({ W with active := some (.job a') } : Worker).settle 0
      ⟨n, lines, some (.render a.jobId pc)⟩).threads = [⟨n, lines, some (.render a'.jobId pc)⟩] := by
    rw [settle_threads (W := { W with active := some (.job a') }) hthreads,
      if_neg (fun h => nomatch h.2), hjob]
  refine ⟨hnumbered.settle hthreads rfl rfl hnumbered.staged rfl hnumbered.finalized rfl,
    .job .editing a'.jobId a'.last none, ?_,
    .rendering (a := a') rfl hoperation hone hout hat ⟨fun p hp => ?_, fun h => ?_⟩ hstaged htimer⟩
  · refine Worker.told_of_produced htold hpending rfl ?_
    rw [settle_pending (W := { W with active := some (.job a') }) hthreads]
    simpa [hout] using hread
  · rw [hcancelling]
    exact hcancels.command p hp
  · rw [hcancelling]
    exact hcancels.requested h

theorem render_sound {pc : RenderPc} {o : Outcome} {W₁ : Worker} {t₁ : Thread}
    (hnumbered : Numbered W) (htold : W.told = some (.job .editing a.jobId a.last none))
    (hactive : W.active = some (.job a)) (hoperation : a.operation = .editing)
    (hthreads : W.threads = [⟨n, [], some (.render a.jobId pc)⟩]) (hout : W.loopOut = [])
    (hat : RenderAt a pc) (hcancels : Cancels W a) (hstaged : W.smartStaged = none)
    (htimer : W.smartCommitTimer = none)
    (h : W.renderStep ⟨n, [], some (.render a.jobId pc)⟩ a.jobId pc o = some (W₁, t₁)) :
    Sound (W₁.settle 0 t₁) := by
  have hsame : ({ W with active := some (.job a) } : Worker) = W := by rw [← hactive]
  have hgoes (pc' : RenderPc) (hat' : RenderAt a pc') :
      Sound (W.settle 0 ⟨n, [], some (.render a.jobId pc')⟩) := by
    rw [← hsame]
    exact rendering_sound hnumbered htold hthreads hout hstaged htimer hcancels rfl hoperation rfl
      hat' rfl
  have hreports {phase : LocalEditingWorkerPhase} {k : Nat} {pc' : RenderPc}
      (horder : inOrder (a.phase.map (·.order)) a.progressPerMille phase.order k = true)
      (hat' : RenderAt { a with phase := some phase, progressPerMille := k } pc') :
      Sound (({ W with active := some (.job { a with phase := some phase, progressPerMille := k }) }
        : Worker).settle 0 ⟨n, [.progress a.jobId phase k], some (.render a.jobId pc')⟩) := by
    refine rendering_sound hnumbered htold hthreads hout hstaged htimer hcancels rfl hoperation rfl
      hat' ?_
    rw [List.map_singleton, List.foldlM_cons, step_progress hoperation horder]
    rfl
  have hover {line : Line} (hline : Session.step (.job .editing a.jobId a.last none)
      (.emitted line) = some .idle) :
      Sound (({ W with active := none } : Worker).settle 0 ⟨n, [line], none⟩) := by
    refine over_sound hnumbered htold hthreads hout hstaged htimer hcancels.begins
      (List.cons_ne_nil _ _) ?_
    rw [List.map_singleton, List.foldlM_cons, hline]
    rfl
  cases pc with
  | preparing =>
    have horder : inOrder (a.phase.map (·.order)) a.progressPerMille
        LocalEditingWorkerPhase.preparing.order 0 = true := by
      rw [show a.phase = none from hat]
      rfl
    cases o with
    | done voiced =>
      simp only [Worker.renderStep, hactive, progress_job hoperation (Nat.zero_le _) horder,
        Worker.produce] at h
      cases h
      exact hreports horder ⟨rfl, rfl⟩
    | _ => cases h
  | rendering =>
    have horder : inOrder (a.phase.map (·.order)) a.progressPerMille
        LocalEditingWorkerPhase.rendering.order 800 = true := by
      rw [hat.1, hat.2]
      rfl
    cases o with
    | done voiced =>
      simp only [Worker.renderStep, hactive, progress_job hoperation (by decide : 800 ≤ 1000) horder,
        Worker.produce] at h
      cases h
      exact hreports horder ⟨rfl, rfl⟩
    | _ => cases h
  | executing =>
    cases o with
    | rendered artifactId =>
      cases h
      exact hgoes (.publishing artifactId) hat
    | cancelled =>
      simp only [Worker.renderStep] at h
      split at h
      · rename_i hrequested
        cases h
        exact hgoes .cancelling (hcancels.requested hrequested)
      · cases h
    | rejected failureCode =>
      cases h
      exact hgoes (.failing failureCode) trivial
    | _ => cases h
  | publishing artifactId =>
    have horder : inOrder (a.phase.map (·.order)) a.progressPerMille
        LocalEditingWorkerPhase.publishing.order 1000 = true := by
      rw [hat.1, hat.2]
      rfl
    cases o with
    | done voiced =>
      simp only [Worker.renderStep, hactive, progress_job hoperation (Nat.le_refl 1000) horder,
        succeed_job (a := { a with phase := some .publishing, progressPerMille := (1000 : Nat) })
          hoperation rfl rfl] at h
      cases h
      refine over_sound hnumbered htold hthreads hout hstaged htimer hcancels.begins
        (List.cons_ne_nil _ _) ?_
      rw [List.map_cons, List.foldlM_cons, step_progress hoperation horder]
      simp [Session.step, Entry.ignored, Session.event]
    | _ => cases h
  | cancelling =>
    cases o with
    | done voiced =>
      simp only [Worker.renderStep, hactive, cancelled_job hoperation hat, Worker.produce] at h
      cases h
      exact hover (by simp [Session.step, Entry.ignored, Session.event])
    | _ => cases h
  | failing failureCode =>
    cases o with
    | done voiced =>
      simp only [Worker.renderStep, hactive, fail_job hoperation, Worker.produce] at h
      cases h
      exact hover (by simp [Session.step, Entry.ignored, Session.event])
    | _ => cases h

/-- What a thread leaves to the others. -/
structure SameRest (W W₁ : Worker) : Prop where
  read : W₁.read = W.read
  command : W₁.command = W.command
  cancelRequested : W₁.cancelRequested = W.cancelRequested
  loopOut : W₁.loopOut = W.loopOut
  threads : W₁.threads = W.threads

/-- The smart edit thread goes on. -/
theorem generating_sound {W₁ : Worker} {pc : SmartEditPc} {es : List Entry}
    {staging : Option (Nat × Option Finalization)}
    (staging' : Option (Nat × Option Finalization)) (hnumbered : Numbered W)
    (htold : W.told = some (.job .smartEdit a.jobId a.last staging))
    (hthreads : W.threads = [⟨n, [], task⟩]) (hout : W.loopOut = []) (hcancels : Cancels W a)
    (hrest : SameRest W W₁) (hlog : W₁.log = W.log ++ es) (htimer : W₁.smartCommitTimer = none)
    (hactive : W₁.active = some (.job a')) (hjob : a'.jobId = a.jobId)
    (hoperation : a'.operation = .smartEdit) (hcancelling : a'.cancelling = a.cancelling)
    (hfinalizing : a'.finalizing = none) (hat : SmartEditAt W₁ a' n staging' pc)
    (hfresh : staging' = none → n ∉ W₁.finalized)
    (hfinalized : ∀ m ∈ W₁.finalized, m < W.read)
    (hstaged : ∀ job, W₁.smartStaged = some job → job.number < W.read)
    (hread : (es ++ lines.map Entry.emitted).foldlM Session.step
      (.job .smartEdit a.jobId a.last staging) =
        some (.job .smartEdit a'.jobId a'.last staging')) :
    Sound (W₁.settle 0 ⟨n, lines, some (.smartEdit a.jobId pc)⟩) := by
  have hpending : W.pending = [] := by simp [Worker.pending, hthreads, hout]
  have hone : (W₁.settle 0 ⟨n, lines, some (.smartEdit a.jobId pc)⟩).threads =
      [⟨n, lines, some (.smartEdit a'.jobId pc)⟩] := by
    rw [settle_threads (hrest.threads.trans hthreads), if_neg (fun h => nomatch h.2), hjob]
  refine ⟨hnumbered.settle hthreads hrest.read hrest.threads hstaged hrest.command hfinalized rfl,
    .job .smartEdit a'.jobId a'.last staging', ?_,
    .generating (a := a') hactive hoperation hone (hrest.loopOut.trans hout) ?_ hfinalizing
      ⟨fun p hp => ?_, fun h => ?_⟩ htimer hfresh⟩
  · refine Worker.told_of_read htold hpending hlog ?_
    rw [settle_pending (hrest.threads.trans hthreads), hrest.loopOut, hout, List.map_nil,
      List.append_nil]
    exact hread
  · cases pc <;> exact hat
  · rw [hcancelling]
    exact hcancels.command p (hrest.command ▸ hp)
  · rw [hcancelling]
    exact hcancels.requested (hrest.cancelRequested ▸ h)

theorem SameRest.refl (W : Worker) : SameRest W W := ⟨rfl, rfl, rfl, rfl, rfl⟩

/-- The smart edit thread has published the staged job. -/
theorem awaiting_sound {job : Staged} (hnumbered : Numbered W)
    (htold : W.told = some (.job .smartEdit a.jobId a.last (some (job.number, none))))
    (hthreads : W.threads = [⟨job.number, [], task⟩]) (hout : W.loopOut = [])
    (hcancels : Cancels W a) (hoperation : a.operation = .smartEdit)
    (hcancelling : a.cancelling = false) (hfinalizing : a.finalizing = none)
    (hjob : job.jobId = a.jobId) (hfinalized : job.number ∉ W.finalized) :
    Sound (({ W with
      smartStaged := some job
      active := some (.job { a with resultDigest := some job.resultDigest, awaitingCommit := true })
      smartCommitTimer := some a.jobId } : Worker).settle 0
        ⟨job.number, [.smartEditPrepared a.jobId job.resultDigest], none⟩) := by
  have hpending : W.pending = [] := by simp [Worker.pending, hthreads, hout]
  have hn : job.number < W.read :=
    hnumbered.threads _ (by rw [hthreads]; exact List.mem_singleton.2 rfl)
  have hown : ∀ staged, some job = some staged → staged.number < W.read := by
    intro staged hsome
    cases hsome
    exact hn
  have hcommand : W.command = none := by
    cases hc : W.command with
    | none => rfl
    | some p =>
      have := (hcancels.command p hc).2
      rw [hcancelling] at this
      cases this
  refine ⟨hnumbered.settle hthreads rfl rfl hown rfl hnumbered.finalized rfl,
    .job .smartEdit a.jobId a.last (some (job.number, none)), ?_,
    .awaiting (a := { a with resultDigest := some job.resultDigest, awaitingCommit := true })
      rfl hoperation rfl rfl hcancelling rfl hjob rfl hfinalized hout
      (.inl ⟨hcommand, hfinalizing, job.number, .smartEditPrepared a.jobId job.resultDigest, ?_⟩)⟩
  · refine Worker.told_of_produced htold hpending rfl ?_
    simp [Worker.pending, Worker.settle, hthreads, hout, Session.step, Entry.ignored,
      Session.event]
  · simp [Worker.settle, hthreads]

theorem smartEdit_sound {pc : SmartEditPc} {o : Outcome} {W₁ : Worker} {t₁ : Thread}
    {staging : Option (Nat × Option Finalization)} (hnumbered : Numbered W)
    (htold : W.told = some (.job .smartEdit a.jobId a.last staging))
    (hactive : W.active = some (.job a)) (hoperation : a.operation = .smartEdit)
    (hthreads : W.threads = [⟨n, [], some (.smartEdit a.jobId pc)⟩]) (hout : W.loopOut = [])
    (hat : SmartEditAt W a n staging pc) (hfinalizing : a.finalizing = none)
    (hcancels : Cancels W a) (htimer : W.smartCommitTimer = none)
    (hfresh : staging = none → n ∉ W.finalized)
    (h : W.smartEditStep ⟨n, [], some (.smartEdit a.jobId pc)⟩ a.jobId pc o = some (W₁, t₁))
    (hH : Unhurried (.thread 0 o) W) : Sound (W₁.settle 0 t₁) := by
  have hsame : ({ W with active := some (.job a) } : Worker) = W := by rw [← hactive]
  have hn : n < W.read :=
    hnumbered.threads _ (by rw [hthreads]; exact List.mem_singleton.2 rfl)
  have hless : ∀ m ∈ n :: W.finalized, m < W.read := by
    intro m hm
    rcases List.mem_cons.1 hm with rfl | hm
    · exact hn
    · exact hnumbered.finalized m hm
  have hgoes (pc' : SmartEditPc) (hat' : SmartEditAt W a n staging pc') :
      Sound (W.settle 0 ⟨n, [], some (.smartEdit a.jobId pc')⟩) :=
    generating_sound staging hnumbered htold hthreads hout hcancels (.refl W) (List.append_nil _).symm
      htimer hactive rfl hoperation rfl hfinalizing hat' hfresh hnumbered.finalized
      hnumbered.staged rfl
  have hover {line : Line} (hstaged : W.smartStaged = none)
      (hline : Session.step (.job .smartEdit a.jobId a.last staging) (.emitted line) =
        some .idle) :
      Sound (({ W with active := none } : Worker).settle 0 ⟨n, [line], none⟩) := by
    refine over_sound hnumbered htold hthreads hout hstaged htimer hcancels.begins
      (List.cons_ne_nil _ _) ?_
    rw [List.map_singleton, List.foldlM_cons, hline]
    rfl
  cases pc with
  | generating stage =>
    obtain ⟨horder, rfl, hawaiting, hstaged⟩ := hat
    cases o with
    | done voiced =>
      simp only [Worker.smartEditStep, hactive, smartEditProgress_job hoperation
        (perMille_le stage) hawaiting hfinalizing horder, Worker.produce] at h
      cases h
      refine generating_sound none hnumbered htold hthreads hout hcancels
        ⟨rfl, rfl, rfl, rfl, rfl⟩ (List.append_nil _).symm htimer rfl rfl hoperation rfl hfinalizing ?_ hfresh
        hnumbered.finalized hnumbered.staged ?_
      · cases hnext : stage.next voiced with
        | some next => exact ⟨inOrder_next hnext, rfl, hawaiting, hstaged⟩
        | none =>
          have hlast : stage = .completed := by
            cases stage <;> first | rfl | cases hnext
          subst hlast
          exact ⟨rfl, rfl, rfl, hawaiting, hstaged⟩
      · rw [List.nil_append, List.map_singleton, List.foldlM_cons,
          step_smartEditProgress hoperation horder]
        rfl
    | cancelled =>
      simp only [Worker.smartEditStep] at h
      split at h
      · rename_i hrequested
        cases h
        exact hgoes (.cancelling none) ⟨hcancels.requested hrequested.1, rfl, hawaiting, hstaged⟩
      · cases h
    | smartEditRejected failureCode =>
      cases h
      exact hgoes (.rejected none failureCode) ⟨rfl, rfl, hstaged⟩
    | _ => cases h
  | writing =>
    obtain ⟨hstage, hper, rfl, hawaiting, hstaged⟩ := hat
    cases o with
    | staged resultDigest =>
      cases h
      exact generating_sound (some (n, none)) hnumbered htold hthreads hout hcancels
        ⟨rfl, rfl, rfl, rfl, rfl⟩ rfl htimer hactive rfl hoperation rfl hfinalizing
        ⟨hstage, hper, rfl, rfl, rfl, hfresh rfl, hawaiting, hstaged⟩ (fun h => nomatch h)
        hnumbered.finalized hnumbered.staged rfl
    | smartEditRejected failureCode =>
      cases h
      exact hgoes (.rejected none failureCode) ⟨rfl, rfl, hstaged⟩
    | _ => cases h
  | prepared job =>
    obtain ⟨hstage, hper, hnumber, hjob, hstaging, hnew, hawaiting, hstaged⟩ := hat
    cases o with
    | done voiced =>
      simp only [Worker.smartEditStep] at h
      cases h
      by_cases hrequested : W.cancelRequested = true
      · rw [if_pos hrequested]
        exact hgoes (.aborting job)
          ⟨hcancels.requested hrequested, hnumber, hstaging, hnew, hawaiting, hstaged⟩
      · rw [if_neg hrequested]
        exact hgoes (.publishing job)
          ⟨hstage, hper, hnumber, hjob, hstaging, hnew, hawaiting, hstaged⟩
    | _ => cases h
  | aborting job =>
    obtain ⟨hcancelling, rfl, rfl, hnew, hawaiting, hstaged⟩ := hat
    cases o with
    | removes removed =>
      have hremoved : removed = true := hH
      simp only [Worker.smartEditStep, Worker.abortSmartEditJob, hnew, hremoved, false_or,
        Bool.true_eq_false, if_false] at h
      cases h
      refine generating_sound (some (job.number, some .aborted)) hnumbered htold hthreads hout
        hcancels ⟨rfl, rfl, rfl, rfl, rfl⟩ rfl htimer hactive rfl hoperation rfl hfinalizing
        ⟨hcancelling, rfl, hawaiting, hstaged⟩ (fun h => nomatch h) hless hnumbered.staged ?_
      simp [Session.step, Entry.ignored]
    | _ => cases h
  | cancelling prepared =>
    obtain ⟨hcancelling, hcloses, hawaiting, hstaged⟩ := hat
    cases o with
    | done voiced =>
      simp only [Worker.smartEditStep, hactive,
        smartEditCancelled_job hoperation hcancelling hawaiting, Worker.produce] at h
      cases h
      exact hover hstaged (by simp [Session.step, Entry.ignored, Session.event, hcloses])
    | _ => cases h
  | publishing job =>
    obtain ⟨hstage, hper, rfl, hjob, rfl, hnew, hawaiting, hstaged⟩ := hat
    cases o with
    | starts started =>
      have hown : ∀ staged, some job = some staged → staged.number < W.read := by
        intro staged hsome
        cases hsome
        exact hn
      have hprepared : smartEditPrepared W.active a.jobId job.resultDigest = _ :=
        hactive ▸ smartEditPrepared_job hoperation hstage hper hawaiting
      by_cases hcancelling : a.cancelling = true
      · rw [if_pos hcancelling] at hprepared
        simp only [Worker.smartEditStep, Worker.publishStaged, hstaged, ne_eq, not_true_eq_false,
          if_false, hprepared] at h
        cases h
        exact generating_sound (some (job.number, none)) hnumbered htold hthreads hout hcancels
          ⟨rfl, rfl, rfl, rfl, rfl⟩ (List.append_nil _).symm htimer hactive rfl hoperation rfl
          hfinalizing ⟨rfl, hjob, rfl, hnew, rfl⟩ hfresh hnumbered.finalized hown rfl
      · rw [if_neg hcancelling] at hprepared
        simp only [Worker.smartEditStep, Worker.publishStaged, hstaged, ne_eq, not_true_eq_false,
          if_false, hprepared] at h
        cases started with
        | false =>
          cases h
          exact generating_sound (some (job.number, none)) hnumbered htold hthreads hout hcancels
            ⟨rfl, rfl, rfl, rfl, rfl⟩ (List.append_nil _).symm htimer rfl rfl hoperation rfl
            hfinalizing ⟨rfl, hjob, rfl, hnew, rfl⟩ hfresh hnumbered.finalized hown rfl
        | true =>
          cases h
          exact awaiting_sound hnumbered htold hthreads hout hcancels hoperation
            (by simpa using hcancelling) hfinalizing hjob hnew
    | _ => cases h
  | rejected prepared failureCode =>
    obtain ⟨rfl, rfl, hstaged⟩ := hat
    cases o with
    | removes removed =>
      cases h
      exact hgoes (.failing failureCode) ⟨rfl, hstaged⟩
    | _ => cases h
  | recovering job =>
    obtain ⟨rfl, hjob, rfl, hnew, hstaged⟩ := hat
    cases o with
    | removes removed =>
      have hremoved : removed = true := hH
      simp only [Worker.smartEditStep, Worker.recover, hstaged, hjob, if_true, Worker.abandon,
        hnew, if_false, Worker.abortSmartEditJob, hremoved, false_or, Bool.true_eq_false] at h
      cases h
      refine generating_sound (some (job.number, some .aborted)) hnumbered htold hthreads hout
        hcancels ⟨rfl, rfl, rfl, rfl, rfl⟩ rfl rfl hactive rfl hoperation rfl hfinalizing
        ⟨rfl, rfl⟩ (fun h => nomatch h) hless (fun _ h => nomatch h) ?_
      simp [Session.step, Entry.ignored]
    | _ => cases h
  | failing failureCode =>
    obtain ⟨hcloses, hstaged⟩ := hat
    cases o with
    | done voiced =>
      simp only [Worker.smartEditStep, hactive, smartEditFailed_job hoperation,
        Worker.produce] at h
      cases h
      exact hover hstaged (by simp [Session.step, Entry.ignored, Session.event, hcloses])
    | _ => cases h

end Thread

theorem threadStep_over {n : Nat} {out : List Line} {o : Outcome} :
    W.threadStep ⟨n, out, none⟩ o = none := by
  unfold Worker.threadStep
  split <;> simp_all

theorem threadStep_out {t : Thread} {o : Outcome} {W₁ : Worker} {t₁ : Thread}
    (h : W.threadStep t o = some (W₁, t₁)) : t.out = [] := by
  unfold Worker.threadStep at h
  split at h
  · assumption
  · assumption
  · assumption
  · cases h

theorem thread_sound (hW : Sound W) {i : Nat} {o : Outcome}
    (h : W.act (.thread i o) = some W') (hH : Unhurried (.thread i o) W) : Sound W' := by
  obtain ⟨hnumbered, s, htold, hstance⟩ := hW
  simp only [Worker.act] at h
  split at h
  rotate_left
  · cases h
  rename_i t hi
  obtain ⟨⟨W₁, t₁⟩, hstep, rfl⟩ := Option.map_eq_some_iff.1 h
  have hout := threadStep_out hstep
  cases hstance with
  | free hactive hstaged htimer hthreads hcommand =>
    rcases hthreads with hnone | ⟨⟨n, lines, hlines, hu⟩, -⟩
    · rw [hnone] at hi
      cases hi
    · obtain ⟨rfl, rfl⟩ := only_thread hu hi
      exact absurd hout hlines
  | starting _ _ _ _ _ _ _ hnone =>
    rw [hnone] at hi
    cases hi
  | @rendering a n lines pc hactive hoperation hu hloop hat hcancels hstaged htimer =>
    obtain ⟨rfl, rfl⟩ := only_thread hu hi
    cases hout
    exact render_sound hnumbered htold hactive hoperation hu hloop hat hcancels hstaged htimer hstep
  | @generating a n lines pc staging hactive hoperation hu hloop hat hfin hcancels htimer hfresh =>
    obtain ⟨rfl, rfl⟩ := only_thread hu hi
    cases hout
    exact smartEdit_sound hnumbered htold hactive hoperation hu hloop hat hfin hcancels htimer
      hfresh hstep hH
  | awaiting _ _ _ _ _ _ _ _ _ _ hthreads =>
    rcases hthreads with ⟨-, -, n, l, hu⟩ | ⟨-, -, hnone⟩ | ⟨-, hnone⟩
    · obtain ⟨rfl, rfl⟩ := only_thread hu hi
      cases hout
    · rw [hnone] at hi
      cases hi
    · rw [hnone] at hi
      cases hi
  | @material n command materialId hactive hu hcommand hloop hstaged htimer =>
    obtain ⟨rfl, rfl⟩ := only_thread hu hi
    cases o with
    | answers answer =>
      by_cases hanswer : answer.command = command
      · subst hanswer
        simp only [Worker.threadStep, Worker.materialStep, hactive, if_true,
          materialAnswered_material, Worker.produce] at hstep
        cases hstep
        refine over_sound hnumbered htold hu hloop hstaged htimer (fun p hp => ?_)
          (List.cons_ne_nil _ _) ?_
        · rw [hcommand] at hp
          cases hp
        · simp [Session.step, Entry.ignored]
      · simp only [Worker.threadStep, Worker.materialStep, if_neg hanswer] at hstep
        cases hstep
    | _ => cases hstep

/-! ## Runs -/

theorem sound_init : Sound {} :=
  ⟨⟨(fun _ h => nomatch h), (fun _ h => nomatch h), (fun _ h => nomatch h),
      fun _ h => nomatch h⟩,
    .idle, rfl, .free rfl rfl rfl (.inl rfl) fun _ h => nomatch h⟩

/-- What is written to a worker is not its posture. -/
theorem Sound.send (hW : Sound W) (command : Command) : Sound (W.send command) := by
  obtain ⟨h, s, htold, hstance⟩ := hW
  exact ⟨⟨h.finalized, h.threads, h.staged, h.command⟩, s, Worker.told_congr htold rfl rfl,
    hstance.congr rfl⟩

/-- A step of an unhurried worker. -/
theorem act_sound (hW : Sound W) {a : Act} (h : W.act a = some W') (hH : Unhurried a W) :
    Sound W' := by
  cases a with
  | take => exact take_sound hW h hH
  | dispatch committed removed =>
    have hremoved : removed = true := hH
    subst hremoved
    exact dispatch_sound hW h
  | loopPrint => exact loopPrint_sound hW h
  | thread i o => exact thread_sound hW h hH
  | print i => exact print_sound hW h
  | expire removed =>
    obtain ⟨hnone, hremoved⟩ : W.threads = [] ∧ removed = true := hH
    subst hremoved
    exact expire_sound hW h hnone

/-- The condition on the steps of a run. -/
def Label.unhurried : Label → Worker → Prop
  | .send _, _ => True
  | .act a, W => Unhurried a W

theorem stance_inductive : (system.restrict Label.unhurried).Inductive Sound where
  init W h := by
    rw [show W = {} from h]
    exact sound_init
  step W l W' hW hs := by
    obtain ⟨hstep, hH⟩ := hs
    cases l with
    | send command =>
      cases hstep
      exact hW.send command
    | act a => exact act_sound hW hstep hH

/-! ## The worker comes to rest -/

@[simp] def RenderPc.rank : RenderPc → Nat
  | .preparing => 8
  | .rendering => 6
  | .executing => 4
  | .publishing _ => 3
  | .cancelling | .failing _ => 2

@[simp] def SmartEditPc.rank : SmartEditPc → Nat
  | .generating stage => 23 - 2 * stage.order
  | .writing => 7
  | .prepared _ => 6
  | .aborting _ => 5
  | .cancelling _ | .publishing _ => 4
  | .rejected _ _ | .recovering _ => 3
  | .failing _ => 2

@[simp] def Task.rank : Task → Nat
  | .render _ pc => pc.rank
  | .smartEdit _ pc => pc.rank
  | .material _ _ => 2

/-- How many steps a thread may still take. -/
@[simp] def Thread.rank (t : Thread) : Nat := t.out.length + (t.task.map Task.rank).getD 0

def Worker.timerRank (W : Worker) : Nat := W.smartCommitTimer.elim 0 fun _ => 2

/-- How many steps the worker may still take by itself. -/
def Worker.rank (W : Worker) : Nat :=
  W.command.elim 0 (fun _ => 24) + W.loopOut.length + (W.threads.map Thread.rank).sum +
    W.timerRank

/-- What a step of a thread does to the ranks. -/
structure Sinks (W : Worker) (t : Thread) (r : Worker × Thread) : Prop where
  command : r.1.command = W.command
  loopOut : r.1.loopOut = W.loopOut
  threads : r.1.threads = W.threads
  rank : r.2.rank + r.1.timerRank < t.rank + W.timerRank

theorem produce_sinks {t : Thread} {r : Report} {next rejected : Option Task}
    (hnext : 1 + (next.map Task.rank).getD 0 < t.rank)
    (hrejected : (rejected.map Task.rank).getD 0 < t.rank) (hout : t.out = []) :
    Sinks W t (W.produce t r next rejected) := by
  cases r with
  | none =>
    refine ⟨rfl, rfl, rfl, Nat.add_lt_add_right ?_ _⟩
    simpa [Worker.produce, Thread.rank, hout] using hrejected
  | some r =>
    refine ⟨rfl, rfl, rfl, Nat.add_lt_add_right ?_ _⟩
    simpa [Worker.produce, Thread.rank] using hnext

theorem renderStep_sinks {n : Nat} {jobId : Uuid4} {pc : RenderPc} {o : Outcome}
    {r : Worker × Thread}
    (h : W.renderStep ⟨n, [], some (.render jobId pc)⟩ jobId pc o = some r) :
    Sinks W ⟨n, [], some (.render jobId pc)⟩ r := by
  have hmoves (pc' : RenderPc) (hless : pc'.rank < pc.rank) :
      Sinks W ⟨n, [], some (.render jobId pc)⟩ (W, ⟨n, [], some (.render jobId pc')⟩) :=
    ⟨rfl, rfl, rfl, Nat.add_lt_add_right (by simpa [Thread.rank, Task.rank] using hless) _⟩
  cases pc <;> cases o <;> simp only [Worker.renderStep, reduceCtorEq] at h
  · cases h
    exact produce_sinks (by simp) (by simp) rfl
  · cases h
    exact produce_sinks (by simp) (by simp) rfl
  · cases h
    exact hmoves (.publishing _) (by simp)
  · split at h
    · cases h
      exact hmoves .cancelling (by simp)
    · cases h
  · cases h
    exact hmoves (.failing _) (by simp)
  · split at h
    · split at h
      · cases h
        exact ⟨rfl, rfl, rfl, Nat.add_lt_add_right (by simp) _⟩
      · cases h
        exact ⟨rfl, rfl, rfl, Nat.add_lt_add_right (by simp) _⟩
    · cases h
      exact hmoves (.failing .renderFailed) (by simp)
  · cases h
    exact produce_sinks (by simp) (by simp) rfl
  · cases h
    exact produce_sinks (by simp) (by simp) rfl

theorem timerRank_le (W : Worker) : W.timerRank ≤ 2 := by
  unfold Worker.timerRank
  cases W.smartCommitTimer <;> simp

theorem abandon_rest (job : Staged) (removed : Bool) :
    (W.abandon job removed).command = W.command ∧ (W.abandon job removed).loopOut = W.loopOut ∧
      (W.abandon job removed).threads = W.threads ∧
      (W.abandon job removed).smartCommitTimer = W.smartCommitTimer := by
  unfold Worker.abandon Worker.abortSmartEditJob Worker.finalize
  by_cases hfinalized : job.number ∈ W.finalized <;> cases removed <;> simp [hfinalized]

theorem recover_rest (jobId : Uuid4) (job : Staged) (removed : Bool) :
    (W.recover jobId job removed).command = W.command ∧
      (W.recover jobId job removed).loopOut = W.loopOut ∧
      (W.recover jobId job removed).threads = W.threads ∧
      (W.recover jobId job removed).smartCommitTimer = none := by
  have habandon (job : Staged) :=
    abandon_rest (W := { W with smartCommitTimer := none }) job removed
  unfold Worker.recover
  dsimp only
  split
  · rename_i published _
    split
    · exact habandon published
    · exact habandon job
  · exact habandon job

theorem next_rank {stage stage' : SmartEditGenerationStage} {voiced : Bool}
    (h : stage.next voiced = some stage') : stage.order < stage'.order ∧ stage'.order ≤ 7 := by
  cases stage <;> cases voiced <;> cases h <;> decide

theorem smartEditStep_sinks {n : Nat} {jobId : Uuid4} {pc : SmartEditPc} {o : Outcome}
    {r : Worker × Thread}
    (h : W.smartEditStep ⟨n, [], some (.smartEdit jobId pc)⟩ jobId pc o = some r) :
    Sinks W ⟨n, [], some (.smartEdit jobId pc)⟩ r := by
  have hmoves (pc' : SmartEditPc) (hless : pc'.rank < pc.rank) :
      Sinks W ⟨n, [], some (.smartEdit jobId pc)⟩ (W, ⟨n, [], some (.smartEdit jobId pc')⟩) :=
    ⟨rfl, rfl, rfl, Nat.add_lt_add_right (by simpa using hless) _⟩
  have hstage (stage : SmartEditGenerationStage) : stage.order ≤ 7 := by
    cases stage <;> decide
  cases pc with
  | generating stage =>
    have horder := hstage stage
    cases o with
    | done voiced =>
      cases h
      refine produce_sinks ?_ ?_ rfl
      · cases hnext : stage.next voiced with
        | some next =>
          have := next_rank hnext
          simp
          omega
        | none =>
          simp
          omega
      · simp
        omega
    | cancelled =>
      simp only [Worker.smartEditStep] at h
      split at h
      · cases h
        exact hmoves (.cancelling none) (by simp; omega)
      · cases h
    | smartEditRejected failureCode =>
      cases h
      exact hmoves (.rejected none failureCode) (by simp; omega)
    | _ => cases h
  | writing =>
    cases o with
    | staged resultDigest =>
      cases h
      exact ⟨rfl, rfl, rfl, Nat.add_lt_add_right (by simp) _⟩
    | smartEditRejected failureCode =>
      cases h
      exact hmoves (.rejected none failureCode) (by simp)
    | _ => cases h
  | prepared job =>
    cases o with
    | done voiced =>
      cases h
      refine hmoves _ ?_
      split <;> simp
    | _ => cases h
  | aborting job =>
    cases o with
    | removes removed =>
      simp only [Worker.smartEditStep, Worker.abortSmartEditJob] at h
      split at h
      · rename_i W₁ hsome
        split at hsome
        · cases hsome
        · cases hsome
          cases h
          exact ⟨rfl, rfl, rfl, Nat.add_lt_add_right (by simp) _⟩
      · cases h
        exact hmoves (.rejected _ _) (by simp)
    | _ => cases h
  | cancelling prepared =>
    cases o with
    | done voiced =>
      cases h
      refine produce_sinks (by simp) ?_ rfl
      cases prepared <;> simp
    | _ => cases h
  | publishing job =>
    cases o with
    | starts started =>
      cases h
      have htimer := timerRank_le W
      unfold Worker.publishStaged
      dsimp only
      split
      · exact hmoves (.recovering job) (by simp)
      · split
        · exact ⟨rfl, rfl, rfl, Nat.add_lt_add_right (by simp) _⟩
        · split
          · exact ⟨rfl, rfl, rfl, by simp [Worker.timerRank]; omega⟩
          · exact ⟨rfl, rfl, rfl, Nat.add_lt_add_right (by simp) _⟩
    | _ => cases h
  | rejected prepared failureCode =>
    cases o with
    | removes removed =>
      cases h
      cases prepared with
      | none => exact hmoves (.failing failureCode) (by simp)
      | some job =>
        obtain ⟨h1, h2, h3, h4⟩ := abandon_rest (W := W) job removed
        exact ⟨h1, h2, h3, by simp [Worker.timerRank, h4]⟩
    | _ => cases h
  | recovering job =>
    cases o with
    | removes removed =>
      cases h
      obtain ⟨h1, h2, h3, h4⟩ := recover_rest (W := W) jobId job removed
      exact ⟨h1, h2, h3, by simp [Worker.timerRank, h4]; omega⟩
    | _ => cases h
  | failing failureCode =>
    cases o with
    | done voiced =>
      cases h
      exact produce_sinks (by simp) (by simp) rfl
    | _ => cases h

theorem threadStep_sinks {t : Thread} {o : Outcome} {r : Worker × Thread}
    (h : W.threadStep t o = some r) : Sinks W t r := by
  have hout := threadStep_out h
  obtain ⟨n, out, task⟩ := t
  cases hout
  cases task with
  | none => rw [threadStep_over] at h; cases h
  | some task =>
    cases task with
    | render jobId pc => exact renderStep_sinks h
    | smartEdit jobId pc => exact smartEditStep_sinks h
    | material command materialId =>
      cases o with
      | answers answer =>
        simp only [Worker.threadStep, Worker.materialStep] at h
        split at h
        · cases h
          exact produce_sinks (by simp) (by simp) rfl
        · cases h
      | _ => cases h

theorem settle_rank {i : Nat} {t : Thread} (t' : Thread) (hi : W.threads[i]? = some t) :
    ((W.settle i t').threads.map Thread.rank).sum + t.rank =
      (W.threads.map Thread.rank).sum + t'.rank := by
  obtain ⟨hlt, hget⟩ := List.getElem?_eq_some_iff.1 hi
  have hsplit : W.threads = W.threads.take i ++ t :: W.threads.drop (i + 1) := by
    rw [← hget, ← List.drop_eq_getElem_cons hlt, List.take_append_drop]
  unfold Worker.settle
  dsimp only
  split
  · rename_i hover
    rw [List.eraseIdx_eq_take_drop_succ]
    nth_rewrite 3 [hsplit]
    simp [hover.1, hover.2]
    omega
  · rw [List.set_eq_take_append_cons_drop, if_pos hlt]
    nth_rewrite 3 [hsplit]
    simp
    omega

theorem finalizeSmartEdit_rest (n : Nat) (action : Action) (jobId : Uuid4)
    (committed removed : Bool) (hcommand : W.command = none) :
    (W.finalizeSmartEdit n action jobId committed removed).command = none ∧
      (W.finalizeSmartEdit n action jobId committed removed).loopOut.length ≤
        W.loopOut.length + 1 ∧
      (W.finalizeSmartEdit n action jobId committed removed).threads = W.threads ∧
      (W.finalizeSmartEdit n action jobId committed removed).timerRank ≤ W.timerRank := by
  have hreport (V : Worker) (r : Report) : (V.report r).1.command = V.command ∧
      (V.report r).1.threads = V.threads ∧
      (V.report r).1.smartCommitTimer = V.smartCommitTimer ∧ (V.report r).2.length ≤ 1 := by
    cases r <;> simp [Worker.report]
  unfold Worker.finalizeSmartEdit
  split
  · exact ⟨hcommand, Nat.le_succ _, rfl, Nat.le_refl _⟩
  · rename_i staged _
    split
    · exact ⟨hcommand, Nat.le_succ _, rfl, Nat.le_refl _⟩
    · have habandon := abandon_rest (W := { W with smartCommitTimer := none }) staged removed
      cases action <;>
        simp only [Worker.abortSmartEditJob, Worker.commitSmartEditJob, Worker.finalize] <;>
        split <;> (try split) <;> simp_all [Worker.timerRank] <;> grind

theorem expire_rest {removed : Bool} (h : W.expireSmartEdit removed = some W') :
    W'.command = W.command ∧ W'.loopOut = W.loopOut ∧
      (∃ new, W'.threads = W.threads ++ new ∧ (new.map Thread.rank).sum ≤ 1) ∧
      W'.smartCommitTimer = none ∧ W.timerRank = 2 := by
  unfold Worker.expireSmartEdit at h
  split at h
  · cases h
  · rename_i jobId htimer
    have hset : W.timerRank = 2 := by simp [Worker.timerRank, htimer]
    have hsame : ∃ new, W.threads = W.threads ++ new ∧ (new.map Thread.rank).sum ≤ 1 :=
      ⟨[], (List.append_nil _).symm, Nat.zero_le _⟩
    dsimp only at h
    split at h
    · cases h
      exact ⟨rfl, rfl, hsame, rfl, hset⟩
    · split at h
      · cases h
        exact ⟨rfl, rfl, hsame, rfl, hset⟩
      · rename_i staged _ _
        simp only [Worker.abortSmartEditJob, Worker.finalize, Option.some.injEq] at h
        subst h
        have hreport (r : Report) (V : Worker) (hV : V.command = W.command ∧
            V.loopOut = W.loopOut ∧ V.threads = W.threads ∧ V.smartCommitTimer = none) :
            (V.report r).1.command = W.command ∧ (V.report r).1.loopOut = W.loopOut ∧
              (∃ new, (V.report r).1.threads ++ ((V.report r).2.map fun line =>
                  ({ number := staged.number, out := [line], task := none } : Thread)) =
                W.threads ++ new ∧ (new.map Thread.rank).sum ≤ 1) ∧
              (V.report r).1.smartCommitTimer = none := by
          obtain ⟨h1, h2, h3, h4⟩ := hV
          cases r <;> simp [Worker.report, h1, h2, h3, h4]
        split
        · rename_i V hsome
          have hV : V.command = W.command ∧ V.loopOut = W.loopOut ∧ V.threads = W.threads ∧
              V.smartCommitTimer = none := by
            split at hsome
            · cases hsome
            · cases hsome
              exact ⟨rfl, rfl, rfl, rfl⟩
          obtain ⟨h1, h2, h3, h4⟩ := hreport _ V hV
          exact ⟨h1, h2, h3, h4, hset⟩
        · obtain ⟨h1, h2, h3, h4⟩ := hreport (smartEditFailed W.active jobId .commitFailed)
            { W with
              smartCommitTimer := none
              smartCleanupPending := W.smartCleanupPending ++ [staged] } ⟨rfl, rfl, rfl, rfl⟩
          exact ⟨h1, h2, h3, h4, hset⟩

/-- Whatever the worker does without reading a command brings it nearer to rest. -/
theorem act_rank {a : Act} (ha : a ≠ .take) (h : W.act a = some W') : W'.rank < W.rank := by
  cases a with
  | take => exact absurd rfl ha
  | dispatch committed removed =>
    simp only [Worker.act] at h
    split at h
    rotate_left
    · cases h
    rename_i n command hcommand
    cases h
    cases command with
    | smartEditFinalize action jobId =>
      have hrest := finalizeSmartEdit_rest (W := { W with command := none }) n action jobId
        committed removed rfl
      simp only [Worker.dispatch, Worker.rank, hrest.1, hrest.2.2.1, hcommand]
      have h1 := hrest.2.1
      have h2 : _ ≤ W.timerRank := hrest.2.2.2
      simp at h1 ⊢
      omega
    | cancel | other => simp [Worker.dispatch, Worker.rank, hcommand, Worker.timerRank]
    | editingStart | smartEditStart | material =>
      simp [Worker.dispatch, Worker.rank, hcommand, Worker.timerRank]
      omega
  | loopPrint =>
    simp only [Worker.act] at h
    split at h
    · rename_i n line rest hout
      cases h
      simp [Worker.rank, Worker.print, hout, Worker.timerRank]
    · cases h
  | thread i o =>
    simp only [Worker.act] at h
    split at h
    rotate_left
    · cases h
    rename_i t hi
    obtain ⟨⟨W₁, t₁⟩, hstep, rfl⟩ := Option.map_eq_some_iff.1 h
    obtain ⟨hcommand, hloop, hthreads, hrank⟩ := threadStep_sinks hstep
    have hsum := settle_rank (W := W₁) t₁ (hthreads ▸ hi)
    rw [hthreads] at hsum
    have htimer : (W₁.settle i t₁).timerRank = W₁.timerRank := rfl
    dsimp only at hrank ⊢
    unfold Worker.rank
    rw [show (W₁.settle i t₁).command = W.command from hcommand,
      show (W₁.settle i t₁).loopOut = W.loopOut from hloop, htimer]
    omega
  | print i =>
    simp only [Worker.act] at h
    split at h
    rotate_left
    · cases h
    rename_i t hi
    split at h
    rotate_left
    · cases h
    rename_i line out hout
    cases h
    have hsum := settle_rank (W := W.print t.number line) { t with out := out } hi
    have hthreads : (W.print t.number line).threads = W.threads := rfl
    have hless : ({ t with out := out } : Thread).rank < t.rank := by simp [hout]
    rw [hthreads] at hsum
    unfold Worker.rank
    show W.command.elim 0 (fun _ => 24) + W.loopOut.length +
      (((W.print t.number line).settle i { t with out := out }).threads.map Thread.rank).sum +
        W.timerRank < _
    omega
  | expire removed =>
    obtain ⟨hcommand, hloop, ⟨new, hthreads, hnew⟩, htimer, hset⟩ := expire_rest h
    unfold Worker.rank
    rw [hcommand, hloop, hthreads, List.map_append, List.sum_append,
      show W'.timerRank = 0 by simp [Worker.timerRank, htimer], hset]
    omega

/-- The worker has nothing left to do: without another command it takes no step. -/
def Worker.Resting (W : Worker) : Prop :=
  ∀ a, a ≠ .take → Unhurried a W → W.act a = none

/-- A thread that has something to do can go on. -/
theorem threadStep_enabled {n : Nat} (task : Task) :
    ∃ o r, W.threadStep ⟨n, [], some task⟩ o = some r ∧ Unhurried (.thread 0 o) W := by
  cases task with
  | render jobId pc =>
    cases pc with
    | executing => exact ⟨.rejected .renderFailed, _, rfl, trivial⟩
    | publishing artifactId =>
      refine ⟨.done false, ?_⟩
      simp only [Worker.threadStep, Worker.renderStep]
      split
      · split
        · exact ⟨_, rfl, trivial⟩
        · exact ⟨_, rfl, trivial⟩
      · exact ⟨_, rfl, trivial⟩
    | _ => exact ⟨.done false, _, rfl, trivial⟩
  | smartEdit jobId pc =>
    cases pc with
    | writing => exact ⟨.smartEditRejected .localFailed, _, rfl, trivial⟩
    | aborting job =>
      refine ⟨.removes true, ?_⟩
      simp only [Worker.threadStep, Worker.smartEditStep]
      split
      · exact ⟨_, rfl, rfl⟩
      · exact ⟨_, rfl, rfl⟩
    | publishing job => exact ⟨.starts true, _, rfl, trivial⟩
    | rejected prepared failureCode => exact ⟨.removes true, _, rfl, rfl⟩
    | recovering job => exact ⟨.removes true, _, rfl, rfl⟩
    | _ => exact ⟨.done false, _, rfl, trivial⟩
  | material command materialId =>
    have hanswer : ∃ answer : MaterialAnswer, answer.command = command := by
      cases command with
      | «import» => exact ⟨.imported [], rfl⟩
      | forget => exact ⟨.forgotten, rfl⟩
      | status => exact ⟨.status .available, rfl⟩
    obtain ⟨answer, hanswer⟩ := hanswer
    refine ⟨.answers answer, ?_⟩
    simp only [Worker.threadStep, Worker.materialStep, if_pos hanswer]
    exact ⟨_, rfl, trivial⟩

theorem Worker.Resting.threads {n : Nat} {out : List Line} {task : Option Task}
    (h : W.Resting) (ht : W.threads = [⟨n, out, task⟩]) : out = [] ∧ task = none := by
  have hprint := h (.print 0) (fun h => nomatch h) trivial
  simp only [Worker.act, ht, List.getElem?_cons_zero] at hprint
  cases out with
  | cons line out => cases hprint
  | nil =>
    cases task with
    | none => exact ⟨rfl, rfl⟩
    | some task =>
      obtain ⟨o, r, hr, hH⟩ := threadStep_enabled (W := W) (n := n) task
      have hthread := h (.thread 0 o) (fun h => nomatch h) hH
      simp only [Worker.act, ht, List.getElem?_cons_zero, hr] at hthread
      cases hthread

/-- A worker that has nothing left to do has closed its session. -/
theorem resting_idle (hW : Sound W) (h : W.Resting) : sessionOf W.log = some .idle := by
  obtain ⟨-, s, htold, hstance⟩ := hW
  have hdispatch : W.command = none := by
    have hnone := h (.dispatch true true) (fun h => nomatch h) rfl
    cases hc : W.command with
    | none => rfl
    | some p =>
      simp only [Worker.act, hc] at hnone
      cases hnone
  cases hstance with
  | free hactive hstaged htimer hthreads hcommand =>
    have hnone : W.threads = [] := by
      rcases hthreads with hnone | ⟨⟨n, out, hout, ht⟩, -⟩
      · exact hnone
      · exact absurd (h.threads ht).1 hout
    have hout : W.loopOut = [] := by
      have hprint := h .loopPrint (fun h => nomatch h) trivial
      cases hl : W.loopOut with
      | nil => rfl
      | cons p rest =>
        simp only [Worker.act, hl] at hprint
        cases hprint
    simpa [Worker.told, Worker.pending, hnone, hout] using htold
  | starting hc =>
    rw [hdispatch] at hc
    cases hc
  | rendering _ _ ht => cases (h.threads ht).2
  | generating _ _ ht => cases (h.threads ht).2
  | @awaiting a job hactive hoperation hawaiting hdigest hcancelling hstaged hjob htimer
      hfinalized hout hthreads =>
    rcases hthreads with ⟨-, -, n, line, ht⟩ | ⟨-, -, hnone⟩ | ⟨⟨n, action, hc, -⟩, -⟩
    · cases (h.threads ht).1
    · have hexpire := h (.expire true) (fun h => nomatch h) ⟨hnone, rfl⟩
      simp only [Worker.act, expire_staged hactive hoperation hstaged hjob htimer hfinalized]
        at hexpire
      cases hexpire
    · rw [hdispatch] at hc
      cases hc
  | material _ ht => cases (h.threads ht).2

/-- What a worker does by itself from here on. -/
inductive Alone : Worker → List Act → Worker → Prop where
  | nil (W : Worker) : Alone W [] W
  | cons {W V W' : Worker} {a : Act} {as : List Act} (ha : a ≠ .take) (h : W.act a = some V)
      (hs : Alone V as W') : Alone W (a :: as) W'

theorem Alone.length_le {as : List Act} (h : Alone W as W') : as.length + W'.rank ≤ W.rank := by
  induction h with
  | nil => exact Nat.le_of_eq (Nat.zero_add _)
  | cons ha hs _ ih =>
    have := act_rank ha hs
    rw [List.length_cons]
    omega

end AutomationTool.Executor.EditingWorker
