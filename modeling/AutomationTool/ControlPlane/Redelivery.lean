import AutomationTool.ControlPlane.Coupling

/-!
# Redelivered events

The executor sends every unexpired outbox message again on each reconnect. An event the
server accepted once stays in the timeline under its message id, its idempotency key and
its fingerprint, and the task stays attached to the attempt the event was for, so
`converge` gets past its attempt check and finds the event (`accepted_event_is_duplicate`).
-/
namespace AutomationTool.ControlPlane

open Protocol TaskEventConvergence TaskEventConvergenceRepository

/-- The timeline only grows. -/
theorem TaskStep.event_kept {db db' : Db} (h : TaskStep db db') {e : TaskEvent}
    (he : e ∈ db.taskEvents) : e ∈ db'.taskEvents := by
  cases h with
  | unchanged _ h => exact h ▸ he
  | created _ _ h => exact h ▸ he
  | moved _ _ _ h => exact h ▸ he
  | appended _ _ _ _ _ h => exact (Relation.mem_insert? h).2 (.inl he)

/-- An installation is never deleted. -/
theorem Effect.installation_kept {o : Op} {db db' : Db} (h : Effect o db db') {i : InstallationId}
    (hi : ∃ r ∈ db.installations.rows, r.id = i) : ∃ r ∈ db'.installations.rows, r.id = i := by
  cases h with
  | registered h =>
    obtain ⟨r, hr, hid⟩ := hi
    exact ⟨r, (Relation.mem_insert? h).2 (.inl hr), hid⟩
  | @revoked _ _ _ _ row _ h =>
    obtain ⟨r, hr, hid⟩ := hi
    by_cases heq : r = row
    · subst heq
      exact ⟨_, h.new_mem, hid⟩
    · exact ⟨r, h.mem_of_ne hr heq, hid⟩
  | _ => exact hi

/-- What the database holds of an event it accepted. -/
structure Recorded (db : Db) (m : Outbound) : Prop where
  installation : ∃ r ∈ db.installations.rows, r.id = m.installationId
  attached : Attached db m.taskId m.installationId m.executionAttemptId
  event : ∃ e ∈ db.taskEvents, e.installationId = m.installationId ∧
    e.sourceMessageId = some m.messageId ∧ e.sourceIdempotencyKey = m.idempotencyKey ∧
    e.sourceFingerprint = .message (outboundIntent m)

/-- An event leaves an attempt an executor works on. -/
theorem engaged_of_projection {p : PendingTaskEvent} {opened : Bool} {task : Task}
    {attempt : ExecutionAttempt} {j : Projection} (hp : p.plan = eventPlan p.type)
    (h : projection p opened task attempt = some j) : Engaged j.taskStatus j.attemptStatus := by
  rcases projection_cases hp h with ⟨-, he⟩ | ⟨h1, -, hs | hs⟩
  · exact he
  · rw [h1, hs]
    trivial
  · rw [h1, hs]
    trivial

/-- A new event is recorded by the transaction that accepts it. -/
theorem recorded_of_receive {db db' : Db} {m : Outbound} {t : Time}
    {r : TaskEventConvergenceResult} (h : receive m t db = some (r, db'))
    (hnew : r.duplicate = false) : Recorded db' m := by
  have hinst : ∃ x ∈ db.installations.rows, x.id = m.installationId := by
    simp only [receive, Option.bind_eq_bind, Option.bind_eq_some_iff] at h
    obtain ⟨p, hp, h⟩ := h
    simp only [TaskEventConvergenceRepository.converge, Option.bind_eq_bind,
      Option.bind_eq_some_iff, Option.guard_eq_some'] at h
    obtain ⟨-, hi, -⟩ := h
    rwa [(pending?_eq_some hp).1] at hi
  obtain ⟨p, task, hp, rfl, htask, hcur, ⟨-, -, hproj⟩ | ⟨rfl, -, -⟩⟩ := receive_eq_some h
  · obtain ⟨attempt, action, opened, j, _, _, _, _, _, _, hc, hr, ha, hx, he, ht, -, rfl⟩ := hproj
    obtain ⟨-, hid, hi⟩ := Db.task?_eq_some.1 htask
    obtain ⟨-, h0, h1, h2⟩ := Db.attempt?_eq_some.1 hc.attempt_eq
    have hsame := projectedAttempt_same p attempt j.attemptStatus
    refine ⟨hinst, ⟨_, ht.new_mem, hid, hi, _, ⟨ha.new_mem, ?_, ?_, ?_⟩, ?_, ?_⟩, ?_⟩
    · rw [hsame.id, h0]
      exact hcur
    · rw [hsame.taskId, h1]
      exact hid.symm
    · rw [hsame.installation, h2]
      exact hi.symm
    · rw [hsame.id, h0]
    · rw [projectedAttempt_status]
      exact engaged_of_projection (pending?_eq_some hp).2.2.1 hc.projection_eq
    · exact ⟨_, (Relation.mem_insert? he).2 (.inr rfl), rfl, rfl, rfl, rfl⟩
  · cases hnew

/-- Whatever happens next, it stays recorded. -/
theorem Recorded.step {db db' : Db} {o : Op} {m : Outbound} (h : Recorded db m)
    (he : Effect o db db') : Recorded db' m where
  installation := he.installation_kept h.installation
  attached := h.attached.step he.attemptStep
  event := by
    obtain ⟨e, hm, hk⟩ := h.event
    exact ⟨e, he.taskStep.event_kept hm, hk⟩

theorem Recorded.run {db db' : Db} {ls : List (Call Op Op.Ret)} {m : Outbound}
    (hr : system.Run db ls db') (h : Recorded db m) : Recorded db' m := by
  induction hr with
  | nil => exact h
  | @cons s _ _ l _ hs _ ih =>
    have he := exec_effect l.1 s
    rw [hs.2] at he
    exact ih (h.step he)

/-- A recorded event is answered as a duplicate. -/
theorem Recorded.receive_duplicate {db : Db} {m : Outbound} {t t' : Time} {p : PendingTaskEvent}
    (h : Recorded db m) (hp : pending? m t = some p) (ht : t ≤ t') (hd : t' < m.deadlineAt) :
    ∃ task, receive m t' db = some (⟨task, true⟩, db) := by
  obtain ⟨task, hm, hid, hi, a, ha, hae, -⟩ := h.attached
  have htask : db.task? m.taskId m.installationId = some task := Db.task?_eq_some.2 ⟨hm, hid, hi⟩
  obtain ⟨e, hem, hei, hmsg, hkey, hfp⟩ := h.event
  have hbm : db.eventByMessage? m.installationId m.messageId = some e :=
    Db.eventByMessage?_eq_some.2 ⟨hem, hei, hmsg⟩
  have hbk : db.eventByKey? m.installationId m.idempotencyKey = some e :=
    Db.eventByKey?_eq_some.2 ⟨hem, hei, hkey⟩
  -- the message is as acceptable as it was
  obtain ⟨p', hp', hpm⟩ : ∃ p', pending? m t' = some p' ∧ p'.message = m := by
    unfold pending? at hp ⊢
    split at hp
    · simp only [Option.bind_eq_bind, Option.bind_eq_some_iff, Option.pure_def,
        Option.guard_eq_some', Option.some.injEq] at hp ⊢
      obtain ⟨-, hg, action, hact, -⟩ := hp
      exact ⟨_, ⟨(), ⟨Nat.le_trans hg.1 ht, hd⟩, action, hact, rfl⟩, rfl⟩
    · cases hp
  refine ⟨task, ?_⟩
  have hcur : task.currentAttemptId = some m.executionAttemptId := hae ▸ ha.current
  have hreplay : isReplay p' (some e) (some e) := by
    have : e.sourceFingerprint = p'.sourceFingerprint := by
      rw [PendingTaskEvent.sourceFingerprint, hpm]
      exact hfp
    refine ⟨?_, ?_, ?_⟩ <;> intro x hx <;> cases hx
    · exact this
    · exact this
    · intro y hy
      cases hy
      exact ⟨rfl, rfl⟩
  simp only [receive, hp', TaskEventConvergenceRepository.converge, hpm, htask, hbm, hbk,
    Option.bind_eq_bind, Option.bind_some, Option.pure_def]
  rw [(Option.guard_eq_some' ()).2 h.installation, (Option.guard_eq_some' ()).2 hcur]
  simp [(Option.guard_eq_some' ()).2 hreplay]

/-- An event the server accepted, delivered again after any operations and before its
deadline, is answered as a duplicate and changes nothing. -/
theorem accepted_event_is_duplicate {db db₁ db₂ : Db} {m : Outbound} {t t' : Time}
    {r : TaskEventConvergenceResult} {ls : List (Call Op Op.Ret)}
    (h : exec (.receive m t) db = (some r, db₁)) (hnew : r.duplicate = false)
    (hrun : system.Run db₁ ls db₂) (ht : t ≤ t') (hd : t' < m.deadlineAt) :
    ∃ task, exec (.receive m t') db₂ = (some ⟨task, true⟩, db₂) := by
  rcases Db.atomic_eq h with ⟨hn, -⟩ | ⟨b, hb, hrec⟩
  · cases hn
  · cases hb
    obtain ⟨p, -, hp, -⟩ := receive_eq_some hrec
    obtain ⟨task, htask⟩ := ((recorded_of_receive hrec hnew).run hrun).receive_duplicate hp ht hd
    refine ⟨task, ?_⟩
    show db₂.atomic (receive m t' db₂) = _
    rw [htask]
    rfl

namespace Walkthrough

/-- The executor meets a dialog during the discovery and asks for a human. -/
def handoff : Outbound where
  messageId := 20
  sentAt := seconds 3
  deadlineAt := seconds 33
  installationId := 1
  executorId := 1
  correlationId := 1
  idempotencyKey := .event 1 2
  sequence := 2
  taskId := 1
  executionAttemptId := 1
  body := .taskEvent .handoffRequested {}
  sequence_pos := Nat.two_pos
  sequence_le := (by decide : maxExecutorSequence ≥ 2)
  deadline_later := (by decide : seconds 33 > seconds 3)

end Walkthrough

open Walkthrough in
/-- The event, sent again after the session was logged out and the installation revoked. -/
theorem handoff_again :
    let db := after exec Db.empty discovering
    let db₁ := (exec (.receive handoff (seconds 4)) db).2
    let db₂ := after exec db₁ [.beginLogout 1 (seconds 5), .revoke 1 1 (seconds 6)]
    ∃ task, exec (.receive handoff (seconds 7)) db₂ = (some ⟨task, true⟩, db₂) := by
  obtain ⟨r, hr, hnew⟩ : ∃ r, (exec (.receive handoff (seconds 4))
      (after exec Db.empty discovering)).1 = some r ∧ r.duplicate = false := ⟨_, rfl, rfl⟩
  exact accepted_event_is_duplicate (Prod.ext hr rfl) hnew
    (run_replies _ (allOk_of_forall (fun _ _ _ => trivial) _)) (by decide) (by decide)

end AutomationTool.ControlPlane
